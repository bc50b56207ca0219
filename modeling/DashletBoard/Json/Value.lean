/-
Module: DashletBoard.Json.Value
Purpose: JSON values and their compact text.
Main exports: Numeral, Json, Json.render, Json.text
-/

namespace DashletBoard

/-!
### Numbers

A number is kept as it is written, so that the reader of a field decides what it accepts: `1`, `1.0`
and `1e0` are three different numerals.
-/

/-- A number as a JSON text writes it: digits, and the optional parts after the point and after the
exponent letter. -/
structure Numeral where
  negative : Bool
  whole : List Char
  fraction : Option (List Char)
  exponent : Option (Bool × List Char)
deriving Repr, Inhabited, DecidableEq

namespace Numeral

/-- A natural number in decimal. -/
def ofNat (n : Nat) : Numeral := ⟨false, Nat.toDigits 10 n, none, none⟩

/-- The text of a numeral. -/
def render (n : Numeral) : List Char :=
  (if n.negative then ['-'] else []) ++ n.whole
    ++ (match n.fraction with
      | some digits => '.' :: digits
      | none => [])
    ++ (match n.exponent with
      | some (negative, digits) => 'e' :: (if negative then '-' :: digits else digits)
      | none => [])

end Numeral

/-!
### Values
-/

/-- A JSON value; the members of an object keep their order. -/
inductive Json where
  | null
  | bool (value : Bool)
  | number (value : Numeral)
  | string (value : String)
  | array (items : List Json)
  | object (members : List (String × Json))
deriving Repr, Inhabited

namespace Json

/-- A natural number. -/
def nat (n : Nat) : Json := .number (Numeral.ofNat n)

/-- A 32-bit word. -/
def word (n : UInt32) : Json := nat n.toNat

/-- A text, or null if there is none. -/
def optional : Option String → Json
  | some text => .string text
  | none => .null

/-!
### Text

The text is compact: no blanks, members in order.  Inside a string only the quote, the backslash and
the control characters below a space are escaped.
-/

/-- The lower-case hexadecimal digit of a number below sixteen. -/
def hexDigit (n : Nat) : Char :=
  if n < 10 then Char.ofNat (48 + n) else Char.ofNat (87 + n)

/-- One character inside a string. -/
def renderChar (c : Char) : List Char :=
  match c with
  | '"' => ['\\', '"']
  | '\\' => ['\\', '\\']
  | '\n' => ['\\', 'n']
  | '\r' => ['\\', 'r']
  | '\t' => ['\\', 't']
  | '\x08' => ['\\', 'b']
  | '\x0c' => ['\\', 'f']
  | c =>
    if c.toNat < 32 then ['\\', 'u', '0', '0', hexDigit (c.toNat / 16), hexDigit (c.toNat % 16)]
    else [c]

/-- A string between quotes. -/
def renderString (s : String) : List Char :=
  '"' :: (s.toList.flatMap renderChar ++ ['"'])

mutual

/-- The compact text of a value. -/
def render : Json → List Char
  | .null => ['n', 'u', 'l', 'l']
  | .bool true => ['t', 'r', 'u', 'e']
  | .bool false => ['f', 'a', 'l', 's', 'e']
  | .number n => n.render
  | .string s => renderString s
  | .array items => '[' :: renderItems items
  | .object members => '\x7b' :: renderMembers members

/-- The items of an array, up to and with its closing bracket. -/
def renderItems : List Json → List Char
  | [] => [']']
  | item :: rest => render item ++ renderMoreItems rest

/-- The items of an array after one item. -/
def renderMoreItems : List Json → List Char
  | [] => [']']
  | item :: rest => ',' :: (render item ++ renderMoreItems rest)

/-- The members of an object, up to and with its closing brace. -/
def renderMembers : List (String × Json) → List Char
  | [] => ['\x7d']
  | (name, value) :: rest => renderString name ++ ':' :: (render value ++ renderMoreMembers rest)

/-- The members of an object after one member. -/
def renderMoreMembers : List (String × Json) → List Char
  | [] => ['\x7d']
  | (name, value) :: rest =>
    ',' :: (renderString name ++ ':' :: (render value ++ renderMoreMembers rest))

end

/-- The compact text of a value, as a string. -/
def text (value : Json) : String := String.ofList value.render

/-!
### Equality

Values can be compared, so that statements on concrete values can be decided.
-/

mutual

/-- Whether two values are the same. -/
def same : Json → Json → Bool
  | .null, .null => true
  | .bool value, .bool other => value == other
  | .number value, .number other => value == other
  | .string value, .string other => value == other
  | .array items, .array others => sameItems items others
  | .object members, .object others => sameMembers members others
  | _, _ => false

/-- Whether two lists have the same values. -/
def sameItems : List Json → List Json → Bool
  | [], [] => true
  | item :: rest, other :: others => item.same other && sameItems rest others
  | _, _ => false

/-- Whether two lists have the same members. -/
def sameMembers : List (String × Json) → List (String × Json) → Bool
  | [], [] => true
  | (name, value) :: rest, (otherName, other) :: others =>
    name == otherName && value.same other && sameMembers rest others
  | _, _ => false

end

mutual

theorem same_iff : ∀ {value other : Json}, value.same other = true ↔ value = other
  | .null, other => by cases other <;> simp [same]
  | .bool _, other => by cases other <;> simp [same]
  | .number _, other => by cases other <;> simp [same]
  | .string _, other => by cases other <;> simp [same]
  | .array items, other => by cases other <;> simp [same, sameItems_iff]
  | .object members, other => by cases other <;> simp [same, sameMembers_iff]

theorem sameItems_iff : ∀ {items others : List Json}, sameItems items others = true ↔ items = others
  | [], others => by cases others <;> simp [sameItems]
  | _ :: _, others => by cases others <;> simp [sameItems, same_iff, sameItems_iff]

theorem sameMembers_iff :
    ∀ {members others : List (String × Json)}, sameMembers members others = true ↔ members = others
  | [], others => by cases others <;> simp [sameMembers]
  | (_, _) :: _, others => by
      rcases others with _ | ⟨⟨_, _⟩, _⟩ <;> simp [sameMembers, same_iff, sameMembers_iff, and_assoc]

end

instance : DecidableEq Json := fun value other => decidable_of_iff (value.same other = true) same_iff

end Json

end DashletBoard
