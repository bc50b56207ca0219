/-
Module: DashletBoard.Json.Draft
Purpose: Reading a JSON text up to its first fault.
Main exports: Draft, Draft.read, Draft.readWhole, Draft.isWhole, Draft.toJson?
-/
import DashletBoard.Json.Value
import DashletBoard.Text.Percent

namespace DashletBoard

/-!
A reader of JSON that expects a certain shape may refuse a text for two reasons: the text is no JSON, or
it is JSON of another shape.  Which reason counts is decided by which fault comes first in the text.
So the text is not read into a value or an error but into a *draft*: the value as far as it can be
read, with a mark where the text stops being JSON.  Whoever interprets the draft walks through it in the
order of the text and meets the two kinds of fault in that order.
-/

/-- What a JSON text holds up to its first fault.  An array or object that is not closed ends in a
fault after its last item or member.  A string with a surrogate escape that lacks its partner is
`unpaired`: it can be passed over, but it has no text.  The same goes for a name without text. -/
inductive Draft where
  | null
  | bool (value : Bool)
  | number (value : Numeral)
  | string (value : String)
  | unpaired
  | array (items : List Draft) (closed : Bool)
  | object (members : List (Option String × Draft)) (closed : Bool)
  | cut
deriving Repr, Inhabited

namespace Draft

/-!
### Blanks and literals
-/

/-- The four blank characters of JSON. -/
def isBlank (c : Char) : Bool :=
  c == ' ' || c == '\n' || c == '\t' || c == '\r'

/-- Passes over blanks. -/
def skipBlanks (text : List Char) : List Char := text.dropWhile isBlank

/-- The rest of a text after a given beginning, if it has that beginning. -/
def after? : List Char → List Char → Option (List Char)
  | [], text => some text
  | _ :: _, [] => none
  | expected :: others, c :: rest => if c = expected then after? others rest else none

/-- A draft that is complete, with the rest of the text. -/
abbrev Progress := Draft × Option (List Char)

/-- The end of reading: nothing can be read from here on. -/
def stop : Progress := (.cut, none)

/-- A literal after its first character. -/
def readLiteral (value : Draft) (others text : List Char) : Progress :=
  match after? others text with
  | some rest => (value, some rest)
  | none => stop

/-!
### Numbers
-/

/-- The digits after a point: at least one. -/
def readFraction : List Char → Option (Option (List Char) × List Char)
  | '.' :: rest =>
    let (digits, rest) := rest.span Char.isDigit
    if digits.isEmpty then none else some (some digits, rest)
  | text => some (none, text)

/-- Digits of an exponent: at least one. -/
def readExponentDigits (negative : Bool) (text : List Char) :
    Option (Option (Bool × List Char) × List Char) :=
  let (digits, rest) := text.span Char.isDigit
  if digits.isEmpty then none else some (some (negative, digits), rest)

/-- An exponent: a letter, an optional sign, and digits. -/
def readExponent (text : List Char) : Option (Option (Bool × List Char) × List Char) :=
  match text with
  | [] => some (none, [])
  | c :: rest =>
    if c = 'e' ∨ c = 'E' then
      match rest with
      | '+' :: digits => readExponentDigits false digits
      | '-' :: digits => readExponentDigits true digits
      | digits => readExponentDigits false digits
    else some (none, text)

/-- A number after its sign.  A zero at the front stands alone. -/
def readUnsigned (negative : Bool) (text : List Char) : Option (Numeral × List Char) :=
  let (whole, rest) := text.span Char.isDigit
  if whole.isEmpty || (whole.head? == some '0' && 1 < whole.length) then none
  else
    match readFraction rest with
    | none => none
    | some (fraction, rest) =>
      match readExponent rest with
      | none => none
      | some (exponent, rest) => some (⟨negative, whole, fraction, exponent⟩, rest)

/-- A number with its optional sign. -/
def readNumber (text : List Char) : Progress :=
  let read := match text with
    | '-' :: rest => readUnsigned true rest
    | _ => readUnsigned false text
  match read with
  | some (n, rest) => (.number n, some rest)
  | none => stop

/-!
### Strings

A string is first cut into characters and 16-bit units, the units being those of `\u` escapes.  Then the
surrogates among the units are put together with their partners.
-/

/-- One element of a string: a character, or the unit of a `\u` escape. -/
inductive Element where
  | character (c : Char)
  | unit (value : Nat)
deriving Repr, DecidableEq

/-- The value of four hexadecimal digits of either case. -/
def unit? (a b c d : Char) : Option Nat :=
  match Text.Percent.hexValue? a, Text.Percent.hexValue? b, Text.Percent.hexValue? c,
      Text.Percent.hexValue? d with
  | some a, some b, some c, some d => some (((a * 16 + b) * 16 + c) * 16 + d)
  | _, _, _, _ => none

/-- The character that a single letter after a backslash stands for. -/
def escaped? : Char → Option Char
  | '"' => some '"'
  | '\\' => some '\\'
  | '/' => some '/'
  | 'b' => some '\x08'
  | 'f' => some '\x0c'
  | 'n' => some '\n'
  | 'r' => some '\r'
  | 't' => some '\t'
  | _ => none

/-- The elements of a string after its opening quote, and the text after its closing quote.  Control
characters below a space must be escaped. -/
def readElements : List Char → Option (List Element × List Char)
  | [] => none
  | '"' :: rest => some ([], rest)
  | '\\' :: 'u' :: a :: b :: c :: d :: rest =>
    match unit? a b c d, readElements rest with
    | some value, some (elements, rest) => some (.unit value :: elements, rest)
    | _, _ => none
  | '\\' :: c :: rest =>
    match escaped? c, readElements rest with
    | some c, some (elements, rest) => some (.character c :: elements, rest)
    | _, _ => none
  | c :: rest =>
    if c.toNat < 32 ∨ c = '\\' then none
    else match readElements rest with
      | some (elements, rest) => some (.character c :: elements, rest)
      | none => none

/-- A unit that begins a pair of surrogates. -/
def isHigh (value : Nat) : Bool := 0xD800 ≤ value && value < 0xDC00

/-- A unit that ends a pair of surrogates. -/
def isLow (value : Nat) : Bool := 0xDC00 ≤ value && value < 0xE000

/-- The characters of a string, unless a surrogate lacks its partner. -/
def characters? : List Element → Option (List Char)
  | [] => some []
  | .character c :: rest => (characters? rest).map (c :: ·)
  | .unit high :: .unit low :: rest =>
    if isHigh high then
      if isLow low then
        (characters? rest).map
          (Char.ofNat (0x10000 + (high - 0xD800) * 0x400 + (low - 0xDC00)) :: ·)
      else none
    else if isLow high then none
    else (characters? (.unit low :: rest)).map (Char.ofNat high :: ·)
  | .unit value :: rest =>
    if isHigh value || isLow value then none
    else (characters? rest).map (Char.ofNat value :: ·)

/-- A string after its opening quote: its text, if all surrogates are paired, and the rest. -/
def readString (text : List Char) : Option (Option String × List Char) :=
  match readElements text with
  | some (elements, rest) => some ((characters? elements).map String.ofList, rest)
  | none => none

/-!
### Values

Every step consumes a character or goes one level down, so twice the length of the text is fuel enough.
-/

mutual

/-- One value, blanks in front of it passed over. -/
def readValue : Nat → List Char → Progress
  | 0, _ => stop
  | fuel + 1, text =>
    match skipBlanks text with
    | [] => stop
    | 'n' :: rest => readLiteral .null ['u', 'l', 'l'] rest
    | 't' :: rest => readLiteral (.bool true) ['r', 'u', 'e'] rest
    | 'f' :: rest => readLiteral (.bool false) ['a', 'l', 's', 'e'] rest
    | '"' :: rest =>
      match readString rest with
      | some (some s, rest) => (.string s, some rest)
      | some (none, rest) => (.unpaired, some rest)
      | none => stop
    | '[' :: rest =>
      let (items, rest) := match skipBlanks rest with
        | ']' :: rest => ([], some rest)
        | rest => readItems fuel rest
      (.array items rest.isSome, rest)
    | '\x7b' :: rest =>
      let (members, rest) := match skipBlanks rest with
        | '\x7d' :: rest => ([], some rest)
        | rest => readMembers fuel rest
      (.object members rest.isSome, rest)
    | text => readNumber text

/-- The items of an array from one item on, up to and with its closing bracket. -/
def readItems : Nat → List Char → List Draft × Option (List Char)
  | 0, _ => ([], none)
  | fuel + 1, text =>
    match readValue fuel text with
    | (item, none) => ([item], none)
    | (item, some rest) =>
      match skipBlanks rest with
      | ']' :: rest => ([item], some rest)
      | ',' :: rest =>
        let (items, rest) := readItems fuel rest
        (item :: items, rest)
      | _ => ([item], none)

/-- The members of an object from one member on, up to and with its closing brace. -/
def readMembers : Nat → List Char → List (Option String × Draft) × Option (List Char)
  | 0, _ => ([], none)
  | fuel + 1, text =>
    match skipBlanks text with
    | '"' :: rest =>
      match readString rest with
      | none => ([], none)
      | some (name, rest) =>
        match skipBlanks rest with
        | ':' :: rest =>
          match readValue fuel rest with
          | (value, none) => ([(name, value)], none)
          | (value, some rest) =>
            match skipBlanks rest with
            | '\x7d' :: rest => ([(name, value)], some rest)
            | ',' :: rest =>
              let (members, rest) := readMembers fuel rest
              ((name, value) :: members, rest)
            | _ => ([(name, value)], none)
        | _ => ([(name, .cut)], none)
    | _ => ([], none)

end

/-- Reads one value at the front of a text, and the rest if the value is complete. -/
def read (text : List Char) : Progress :=
  readValue (2 * text.length + 2) text

/-- Reads a text that should be one value: whether nothing but blanks follows the value is told
beside it. -/
def readWhole (text : String) : Draft × Bool :=
  match read text.toList with
  | (draft, some rest) => (draft, (skipBlanks rest).isEmpty)
  | (draft, none) => (draft, false)

/-!
### Whole drafts
-/

mutual

/-- Whether a draft has no fault: the text is JSON, though a string in it may lack a text. -/
def isWhole : Draft → Bool
  | .array items closed => closed && areWhole items
  | .object members closed => closed && haveWhole members
  | .cut => false
  | _ => true

/-- Whether every item is whole. -/
def areWhole : List Draft → Bool
  | [] => true
  | item :: rest => isWhole item && areWhole rest

/-- Whether every member has a whole value. -/
def haveWhole : List (Option String × Draft) → Bool
  | [] => true
  | (_, value) :: rest => isWhole value && haveWhole rest

end

mutual

/-- The JSON value of a draft without faults in which every string has a text. -/
def toJson? : Draft → Option Json
  | .null => some .null
  | .bool value => some (.bool value)
  | .number value => some (.number value)
  | .string value => some (.string value)
  | .array items true => (toItems? items).map .array
  | .object members true => (toMembers? members).map .object
  | _ => none

/-- The values of all items. -/
def toItems? : List Draft → Option (List Json)
  | [] => some []
  | item :: rest =>
    match toJson? item, toItems? rest with
    | some item, some rest => some (item :: rest)
    | _, _ => none

/-- The names and values of all members. -/
def toMembers? : List (Option String × Draft) → Option (List (String × Json))
  | [] => some []
  | (name, value) :: rest =>
    match name, toJson? value, toMembers? rest with
    | some name, some value, some rest => some ((name, value) :: rest)
    | _, _, _ => none

end

mutual

/-- How deeply arrays and objects are nested. -/
def depth : Draft → Nat
  | .array items _ => itemsDepth items + 1
  | .object members _ => membersDepth members + 1
  | _ => 0

/-- The greatest depth among items. -/
def itemsDepth : List Draft → Nat
  | [] => 0
  | item :: rest => max (depth item) (itemsDepth rest)

/-- The greatest depth among the values of members. -/
def membersDepth : List (Option String × Draft) → Nat
  | [] => 0
  | (_, value) :: rest => max (depth value) (membersDepth rest)

end

end Draft

end DashletBoard
