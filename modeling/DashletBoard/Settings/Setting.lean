/-
Module: DashletBoard.Settings.Setting
Purpose: Configuration values, the layering of one over another, and key paths.
Main exports: Setting, Setting.overlay, Setting.assign, KeyStep, keyPath
-/
import DashletBoard.Number.Binary64
import DashletBoard.Text.Digits
import DashletBoard.Text.Percent

namespace DashletBoard

/-- A value in a configuration.  The entries of a table have distinct names. -/
inductive Setting where
  | nothing
  | flag (value : Bool)
  | whole (value : Int)
  | float (value : Binary64)
  | text (value : String)
  | list (items : List Setting)
  | table (entries : List (String × Setting))
deriving Repr, Inhabited

namespace Setting

/-- The entries of a table; anything else has none. -/
def entries : Option Setting → List (String × Setting)
  | some (.table entries) => entries
  | _ => []

/-- The items of a list; anything else has none. -/
def items : Option Setting → List Setting
  | some (.list items) => items
  | _ => []

/-- Sets the value of a name, in the place of an entry with the same name. -/
def setEntry (name : String) (value : Setting) : List (String × Setting) → List (String × Setting)
  | [] => [(name, value)]
  | (other, held) :: rest =>
    if other = name then (name, value) :: rest else (other, held) :: setEntry name value rest

/-!
### Layers

A table that is laid over a table is merged with it, name by name.  Any other value replaces what it
is laid over, and a table replaces what is no table.
-/

mutual

/-- Lays a value over another one, if there is one. -/
def overlay (base : Option Setting) : Setting → Setting
  | .table added => .table (overlayEntries (entries base) added)
  | value => value

/-- Lays entries over others. -/
def overlayEntries (held : List (String × Setting)) :
    List (String × Setting) → List (String × Setting)
  | [] => held
  | (name, value) :: rest =>
    overlayEntries (setEntry name (overlay (held.lookup name) value) held) rest

end

end Setting

/-!
### Key paths

A key names a place inside the configuration: names with points between them, each of which may be
followed by the index of an item in brackets.  A key that has another form is one name.
-/

/-- A step of a key path: into a table, or to an item of a list.  A negative index counts from the end
of the list. -/
inductive KeyStep where
  | entry (name : String)
  | item (index : Int)
deriving Repr, DecidableEq

namespace Setting

/-- Where an index falls in a list of a given length, and how many items are missing in front. -/
def resolveIndex (length : Nat) (index : Int) : Nat × Nat :=
  if 0 ≤ index then (index.toNat, 0)
  else
    let fromEnd := (-index).toNat
    if fromEnd ≤ length then (length - fromEnd, 0) else (0, fromEnd - length)

/-- Changes the item at an index of a list, which is made long enough first. -/
def setItem (items : List Setting) (index : Int) (change : Option Setting → Setting) :
    List Setting :=
  let (place, missing) := resolveIndex items.length index
  let items := List.replicate missing .nothing ++ items
  let items := items ++ List.replicate (place + 1 - items.length) .nothing
  items.set place (change items[place]?)

/-- Lays a value over what is at a key path.  What is on the way and is no table, or no list, is replaced
by one. -/
def assign (value : Setting) : List KeyStep → Option Setting → Setting
  | [], base => overlay base value
  | .entry name :: rest, base =>
    let held := entries base
    .table (setEntry name (assign value rest (held.lookup name)) held)
  | .item index :: rest, base => .list (setItem (items base) index (assign value rest))

end Setting

/-- The characters of a name in a key path. -/
def isKeyChar (c : Char) : Bool := Text.Percent.isAlphanumeric c || c == '_' || c == '-'

/-- An index between brackets, with blanks around it. -/
def keyIndex? (text : List Char) : Option Int :=
  let isGap (c : Char) : Bool := c == ' ' || c == '\t'
  match ((text.dropWhile isGap).reverse.dropWhile isGap).reverse with
  | '+' :: _ => none
  | digits => Text.signed64? digits

/-- The steps of a key path after its first name. -/
def keySteps? : Nat → List Char → Option (List KeyStep)
  | _, [] => some []
  | 0, _ => none
  | fuel + 1, '.' :: rest =>
    let (name, rest) := rest.span isKeyChar
    if name.isEmpty then none
    else (keySteps? fuel rest).map (.entry (String.ofList name) :: ·)
  | fuel + 1, '[' :: rest =>
    let (index, rest) := rest.span (· != ']')
    match keyIndex? index, rest with
    | some index, _ :: rest => (keySteps? fuel rest).map (.item index :: ·)
    | _, _ => none
  | _, _ => none

/-- The steps that a key stands for. -/
def keyPath (key : String) : List KeyStep :=
  let (name, rest) := key.toList.span isKeyChar
  match name.isEmpty, keySteps? rest.length rest with
  | false, some steps => .entry (String.ofList name) :: steps
  | _, _ => [.entry key]

end DashletBoard
