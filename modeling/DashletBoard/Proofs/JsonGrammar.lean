/-
Module: DashletBoard.Proofs.JsonGrammar
Purpose: All texts of a JSON value; the compact text that is written is one of them.
Main exports: Json.Spelled, Json.IsWrittenAs, Json.spelled_array, Json.spelled_object, Json.isWrittenAs_text
-/
import DashletBoard.Proofs.JsonSpelling

namespace DashletBoard.Json

/-!
### Texts of values

The grammar of JSON: blanks may stand around every value, name and sign.
-/

/-- A text of blanks. -/
def IsBlank (text : List Char) : Prop := ∀ c ∈ text, Draft.isBlank c

/-- The ways to write the name of a member with the colon after it. -/
inductive SpelledName (name : String) : List Char → Prop where
  | mk {front label between : List Char} (before : IsBlank front)
      (quoted : SpelledString name.toList label) (after : IsBlank between) :
      SpelledName name (front ++ '"' :: (label ++ '"' :: (between ++ [':'])))

mutual

/-- The ways to write a value, blanks in front included. -/
inductive Spelled : Json → List Char → Prop where
  | blank {c : Char} {value : Json} {text : List Char} (skipped : Draft.isBlank c)
      (spelled : Spelled value text) : Spelled value (c :: text)
  | null : Spelled .null ['n', 'u', 'l', 'l']
  | true : Spelled (.bool true) ['t', 'r', 'u', 'e']
  | false : Spelled (.bool false) ['f', 'a', 'l', 's', 'e']
  | number {n : Numeral} {text : List Char} (spelled : n.Spelled text) : Spelled (.number n) text
  | string {s : String} {text : List Char} (quoted : SpelledString s.toList text) :
      Spelled (.string s) ('"' :: (text ++ ['"']))
  | emptyArray {blanks : List Char} (inside : IsBlank blanks) :
      Spelled (.array []) ('[' :: (blanks ++ [']']))
  | array {items : List Json} {text : List Char} (spelled : SpelledItems items text) :
      Spelled (.array items) ('[' :: text)
  | emptyObject {blanks : List Char} (inside : IsBlank blanks) :
      Spelled (.object []) ('\x7b' :: (blanks ++ ['\x7d']))
  | object {members : List (String × Json)} {text : List Char}
      (spelled : SpelledMembers members text) : Spelled (.object members) ('\x7b' :: text)

/-- The ways to write some items of an array, up to and with its closing bracket. -/
inductive SpelledItems : List Json → List Char → Prop where
  | last {value : Json} {text blanks : List Char} (spelled : Spelled value text)
      (after : IsBlank blanks) : SpelledItems [value] (text ++ (blanks ++ [']']))
  | more {value : Json} {items : List Json} {text blanks others : List Char}
      (spelled : Spelled value text) (after : IsBlank blanks) (rest : SpelledItems items others) :
      SpelledItems (value :: items) (text ++ (blanks ++ ',' :: others))

/-- The ways to write some members of an object, up to and with its closing brace. -/
inductive SpelledMembers : List (String × Json) → List Char → Prop where
  | last {name : String} {value : Json} {label text blanks : List Char}
      (named : SpelledName name label) (spelled : Spelled value text) (after : IsBlank blanks) :
      SpelledMembers [(name, value)] (label ++ (text ++ (blanks ++ ['\x7d'])))
  | more {name : String} {value : Json} {members : List (String × Json)}
      {label text blanks others : List Char} (named : SpelledName name label)
      (spelled : Spelled value text) (after : IsBlank blanks)
      (rest : SpelledMembers members others) :
      SpelledMembers ((name, value) :: members) (label ++ (text ++ (blanks ++ ',' :: others)))

end

/-- A text is a value with blanks around it and nothing else. -/
def IsWrittenAs (value : Json) (text : String) : Prop :=
  ∃ front blanks, text.toList = front ++ blanks ∧ Spelled value front ∧ IsBlank blanks

/-!
### The compact text
-/

/-- The lower-case hexadecimal digits are hexadecimal digits. -/
theorem hexValue?_hexDigit : ∀ n < 16, Text.Percent.hexValue? (hexDigit n) = some n := by decide

theorem spelledChar_renderChar (c : Char) : SpelledChar c (renderChar c) := by
  rw [renderChar.eq_def]
  split
  next => exact .letter rfl
  next => exact .letter rfl
  next => exact .letter rfl
  next => exact .letter rfl
  next => exact .letter rfl
  next => exact .letter rfl
  next => exact .letter rfl
  next quote backslash _ _ _ _ _ =>
    split
    next control =>
      have high := hexValue?_hexDigit (c.toNat / 16) (by omega)
      have low := hexValue?_hexDigit (c.toNat % 16) (by omega)
      have zero : Text.Percent.hexValue? '0' = some 0 := by decide
      apply SpelledChar.unit
      simp only [Draft.unit?, zero, high, low, Option.some.injEq]
      omega
    next visible => exact .plain (Nat.not_lt.mp visible) quote backslash

theorem spelledString_flatMap (cs : List Char) : SpelledString cs (cs.flatMap renderChar) := by
  induction cs with
  | nil => exact .nil
  | cons c rest ih => exact .cons (spelledChar_renderChar c) ih

theorem spelled_string (s : String) : Spelled (.string s) (render (.string s)) := by
  rw [render, renderString]
  exact .string (spelledString_flatMap s.toList)

theorem spelled_nat (n : Nat) : Spelled (nat n) (nat n).render := by
  rw [nat, render]
  exact .number (Numeral.spelled_ofNat n)

theorem spelled_bool (value : Bool) : Spelled (.bool value) (render (.bool value)) := by
  cases value with
  | false => exact .false
  | true => exact .true

theorem isBlank_nil : IsBlank [] := List.forall_mem_nil _

theorem spelledItems_render {item : Json} {rest : List Json} (first : Spelled item item.render)
    (others : ∀ other ∈ rest, Spelled other other.render) :
    SpelledItems (item :: rest) (renderItems (item :: rest)) := by
  rw [renderItems]
  induction rest generalizing item with
  | nil => exact .last first isBlank_nil
  | cons next more ih =>
      obtain ⟨second, rest⟩ := List.forall_mem_cons.mp others
      rw [renderMoreItems]
      exact .more first isBlank_nil (ih second rest)

/-- The compact text of an array is a text of it if those of the items are. -/
theorem spelled_array {items : List Json} (spelled : ∀ item ∈ items, Spelled item item.render) :
    Spelled (.array items) (render (.array items)) := by
  rw [render]
  cases items with
  | nil => exact .emptyArray isBlank_nil
  | cons item rest =>
      obtain ⟨first, others⟩ := List.forall_mem_cons.mp spelled
      exact .array (spelledItems_render first others)

theorem spelledName_render (name : String) : SpelledName name (renderString name ++ [':']) := by
  have named := SpelledName.mk isBlank_nil (spelledString_flatMap name.toList) isBlank_nil
  simpa [renderString] using named

theorem spelledMembers_render {name : String} {value : Json} {rest : List (String × Json)}
    (first : Spelled value value.render) (others : ∀ other ∈ rest, Spelled other.2 other.2.render) :
    SpelledMembers ((name, value) :: rest) (renderMembers ((name, value) :: rest)) := by
  rw [renderMembers]
  induction rest generalizing name value with
  | nil =>
      have spelled := SpelledMembers.last (spelledName_render name) first isBlank_nil
      simpa [renderMoreMembers] using spelled
  | cons next more ih =>
      obtain ⟨label, item⟩ := next
      obtain ⟨second, rest⟩ := List.forall_mem_cons.mp others
      have tail := @ih label item second rest
      have spelled := SpelledMembers.more (spelledName_render name) first isBlank_nil tail
      simpa [renderMoreMembers] using spelled

/-- The compact text of an object is a text of it if those of the values are. -/
theorem spelled_object {members : List (String × Json)}
    (spelled : ∀ member ∈ members, Spelled member.2 member.2.render) :
    Spelled (.object members) (render (.object members)) := by
  rw [render]
  cases members with
  | nil => exact .emptyObject isBlank_nil
  | cons member rest =>
      obtain ⟨first, others⟩ := List.forall_mem_cons.mp spelled
      exact .object (spelledMembers_render first others)

theorem isWrittenAs_text {value : Json} (spelled : Spelled value value.render) :
    value.IsWrittenAs value.text := by
  refine ⟨value.render, [], ?_, spelled, isBlank_nil⟩
  rw [text, String.toList_ofList, List.append_nil]

end DashletBoard.Json
