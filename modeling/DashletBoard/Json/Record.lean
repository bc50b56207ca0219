/-
Module: DashletBoard.Json.Record
Purpose: Reading records with named fields of fixed kinds from JSON, as an object or as a list.
Main exports: Fault, FieldKind, Scalar, Field, Shape, Shape.read, Draft.readList, Draft.readTextMap
-/
import DashletBoard.Json.Draft
import DashletBoard.Json.Number

namespace DashletBoard

/-!
### Faults and scalars
-/

/-- Why a JSON text is refused: it is no JSON up to this place, or it is not what is asked for. -/
inductive Fault where
  | malformed
  | unfit
deriving Repr, Inhabited, DecidableEq

/-- What a field of a record holds. -/
inductive FieldKind where
  | text
  | optionalText
  | word
  | flag
deriving Repr, Inhabited, DecidableEq

/-- A value of a field; null counts as absent. -/
inductive Scalar where
  | text (value : String)
  | word (value : UInt32)
  | flag (value : Bool)
  | absent
deriving Repr, Inhabited, DecidableEq

/-- The fault of a draft where something else is asked for.  A number, string or literal is read
before it is refused, so one that cannot be read is malformed; an array or object is refused at
once. -/
def Draft.refusal : Draft → Fault
  | .cut => .malformed
  | .unpaired => .malformed
  | .number n => if n.value?.isSome then .unfit else .malformed
  | _ => .unfit

/-- Reads a value of a given kind.  Whole numbers must be written as such, and only an optional text
may be null. -/
def FieldKind.read : FieldKind → Draft → Except Fault Scalar
  | .text, .string s => .ok (.text s)
  | .optionalText, .string s => .ok (.text s)
  | .optionalText, .null => .ok .absent
  | .flag, .bool b => .ok (.flag b)
  | .word, .number n =>
    match n.word? with
    | some w => .ok (.word w)
    | none => .error (Draft.number n).refusal
  | _, draft => .error draft.refusal

/-!
### Shapes
-/

/-- One field of a record: its name, its kind, whether an object may leave it out, and whether a list
may end before it. -/
structure Field where
  name : String
  kind : FieldKind
  mayLack : Bool
  mayEnd : Bool
deriving Repr, Inhabited, DecidableEq

/-- The fields of a record, in the order in which a list gives them. -/
abbrev Shape := List Field

/-- Values by field name. -/
abbrev Fields := List (String × Scalar)

namespace Fields

/-- The value of a field. -/
def value? (fields : Fields) (name : String) : Option Scalar := fields.lookup name

/-- The text of a field, or another text if it has none. -/
def text (fields : Fields) (name : String) (missing : String) : String :=
  match fields.value? name with
  | some (.text value) => value
  | _ => missing

/-- The text of an optional field. -/
def text? (fields : Fields) (name : String) : Option String :=
  match fields.value? name with
  | some (.text value) => some value
  | _ => none

/-- The word of a field, or another word if it has none. -/
def word (fields : Fields) (name : String) (missing : UInt32) : UInt32 :=
  match fields.value? name with
  | some (.word value) => value
  | _ => missing

/-- The truth value of a field, or another one if it has none. -/
def flag (fields : Fields) (name : String) (missing : Bool) : Bool :=
  match fields.value? name with
  | some (.flag value) => value
  | _ => missing

end Fields

namespace Shape

/-- The field of a name. -/
def field? (shape : Shape) (name : String) : Option Field :=
  shape.find? fun field => field.name == name

/-- Reads the members of an object in order.  A member of an unknown name is passed over, but must be
JSON; a second member of a known name is refused before its value is read. -/
def readMembers (shape : Shape) : Fields → List (Option String × Draft) → Except Fault Fields
  | seen, [] => .ok seen
  | _, (none, _) :: _ => .error .malformed
  | seen, (some name, value) :: rest =>
    match shape.field? name with
    | none => if value.isWhole then readMembers shape seen rest else .error .malformed
    | some field =>
      if (seen.lookup name).isSome then .error .unfit
      else
        match field.kind.read value with
        | .ok scalar => readMembers shape ((name, scalar) :: seen) rest
        | .error fault => .error fault

/-- Whether every field that an object must have is there. -/
def isComplete (shape : Shape) (fields : Fields) : Bool :=
  shape.all fun field => field.mayLack || (fields.lookup field.name).isSome

/-- Reads the items of a list in the order of the fields.  A list that goes on after the last field is
malformed there. -/
def readItems : Shape → List Draft → Bool → Except Fault Fields
  | [], [], true => .ok []
  | [], _, _ => .error .malformed
  | _ :: _, [], false => .error .malformed
  | field :: others, [], true =>
    if (field :: others).all Field.mayEnd then .ok [] else .error .unfit
  | field :: others, item :: items, closed =>
    match field.kind.read item with
    | .error fault => .error fault
    | .ok scalar =>
      match readItems others items closed with
      | .ok fields => .ok ((field.name, scalar) :: fields)
      | .error fault => .error fault

/-- Reads a record from an object or from a list. -/
def read (shape : Shape) : Draft → Except Fault Fields
  | .object members closed =>
    match shape.readMembers [] members with
    | .error fault => .error fault
    | .ok fields =>
      if !closed then .error .malformed
      else if shape.isComplete fields then .ok fields
      else .error .unfit
  | .array items closed => shape.readItems items closed
  | draft => .error draft.refusal

end Shape

/-!
### Lists and maps
-/

namespace Draft

/-- Reads items in order, each with a given reader; a list that is not closed is malformed after them. -/
def readEach (item : Draft → Except Fault α) : List Draft → Bool → Except Fault (List α)
  | [], true => .ok []
  | [], false => .error .malformed
  | draft :: rest, closed =>
    match item draft with
    | .error fault => .error fault
    | .ok value =>
      match readEach item rest closed with
      | .ok values => .ok (value :: values)
      | .error fault => .error fault

/-- Reads a list, each item with a given reader. -/
def readList (item : Draft → Except Fault α) : Draft → Except Fault (List α)
  | .array items closed => readEach item items closed
  | draft => .error draft.refusal

/-- Reads members in order whose values are all texts. -/
def readTexts : List (Option String × Draft) → Bool → Except Fault (List (String × String))
  | [], true => .ok []
  | [], false => .error .malformed
  | (none, _) :: _, _ => .error .malformed
  | (some name, .string value) :: rest, closed =>
    match readTexts rest closed with
    | .ok pairs => .ok ((name, value) :: pairs)
    | .error fault => .error fault
  | (some _, draft) :: _, _ => .error draft.refusal

/-- Reads an object whose values are all texts, as pairs in order. -/
def readTextMap : Draft → Except Fault (List (String × String))
  | .object members closed => readTexts members closed
  | draft => .error draft.refusal

/-- Reads a text that should be one value with a given reader and nothing after it. -/
def parse (reader : Draft → Except Fault α) (text : String) : Except Fault α :=
  match readWhole text with
  | (draft, true) => reader draft
  | (draft, false) =>
    match reader draft with
    | .ok _ => .error .malformed
    | .error fault => .error fault

/-- Reads a value at the front of a text with a given reader; what follows the value is not looked
at. -/
def parseFront (reader : Draft → Except Fault α) (text : String) : Except Fault α :=
  reader (read text.toList).1

end Draft

end DashletBoard
