/-
Module: DashletBoard.Settings.Toml.Scalar
Purpose: Strings, numbers and dates of TOML documents.
Main exports: Toml.isGap, Toml.newline?, Toml.string?, Toml.scalar?
-/
import DashletBoard.Number.FloatText
import DashletBoard.Settings.Setting

namespace DashletBoard.Toml

/-!
### Blanks and line ends
-/

/-- A blank inside a line. -/
def isGap (c : Char) : Bool := c == ' ' || c == '\t'

/-- Passes over blanks inside a line. -/
def skipGap (text : List Char) : List Char := text.dropWhile isGap

/-- The text after a line end. -/
def newline? : List Char → Option (List Char)
  | '\n' :: rest => some rest
  | '\r' :: '\n' :: rest => some rest
  | _ => none

/-- A character that may stand as it is inside a line: a tab, or anything but a control character. -/
def isPlain (c : Char) : Bool := c == '\t' || (31 < c.toNat && c.toNat != 127)

/-!
### Strings
-/

/-- The character of a code point in hexadecimal digits; surrogates are no characters. -/
def ofHex? (digits : List Char) : Option Char :=
  match digits.mapM Text.Percent.hexValue? with
  | none => none
  | some values =>
    let code := values.foldl (fun code value => 16 * code + value) 0
    if code < 0xD800 ∨ (0xDFFF < code ∧ code < 0x110000) then some (Char.ofNat code) else none

/-- The character of an escape after its backslash, and the rest. -/
def escape? : List Char → Option (Char × List Char)
  | 'b' :: rest => some ('\x08', rest)
  | 't' :: rest => some ('\t', rest)
  | 'n' :: rest => some ('\n', rest)
  | 'f' :: rest => some ('\x0c', rest)
  | 'r' :: rest => some ('\r', rest)
  | 'e' :: rest => some ('\x1b', rest)
  | '"' :: rest => some ('"', rest)
  | '\\' :: rest => some ('\\', rest)
  | 'x' :: rest =>
    if rest.length < 2 then none else (ofHex? (rest.take 2)).map fun c => (c, rest.drop 2)
  | 'u' :: rest =>
    if rest.length < 4 then none else (ofHex? (rest.take 4)).map fun c => (c, rest.drop 4)
  | 'U' :: rest =>
    if rest.length < 8 then none else (ofHex? (rest.take 8)).map fun c => (c, rest.drop 8)
  | _ => none

/-- A string on one line, after its opening quote. -/
def lineString? (quote : Char) : Nat → List Char → Option (List Char × List Char)
  | 0, _ => none
  | _, [] => none
  | fuel + 1, c :: rest =>
    if c == quote then some ([], rest)
    else if c == '\\' && quote == '"' then
      match escape? rest with
      | some (c, rest) => (lineString? quote fuel rest).map fun (text, rest) => (c :: text, rest)
      | none => none
    else if isPlain c then
      (lineString? quote fuel rest).map fun (text, rest) => (c :: text, rest)
    else none

/-- Passes over blanks and line ends. -/
def skipLines : Nat → List Char → List Char
  | 0, text => text
  | fuel + 1, text =>
    let text := skipGap text
    match newline? text with
    | some rest => skipLines fuel rest
    | none => text

/-- A string over several lines, after its opening quotes and the line end that may follow them.  One or
two quotes are part of the string, also in front of the closing quotes.  Line ends stay as they are
written, but a backslash at the end of a line joins it with the next text. -/
def blockString? (quote : Char) : Nat → List Char → Option (List Char × List Char)
  | 0, _ => none
  | _, [] => none
  | fuel + 1, c :: rest =>
    let text := c :: rest
    let quotes := (text.takeWhile (· == quote)).length
    if 3 ≤ quotes then
      if quotes ≤ 5 then some (List.replicate (quotes - 3) quote, text.drop quotes) else none
    else if c == '\\' && quote == '"' then
      match newline? (skipGap rest) with
      | some after => blockString? quote fuel (skipLines (after.length + 1) after)
      | none =>
        match escape? rest with
        | some (c, rest) => (blockString? quote fuel rest).map fun (text, rest) => (c :: text, rest)
        | none => none
    else
      match c, rest with
      | '\r', '\n' :: rest =>
        (blockString? quote fuel rest).map fun (text, rest) => ('\r' :: '\n' :: text, rest)
      | _, _ =>
        if c == '\n' || isPlain c then
          (blockString? quote fuel rest).map fun (text, rest) => (c :: text, rest)
        else none

/-- A string of any of the four forms, from its opening quote on. -/
def string? (text : List Char) : Option (List Char × List Char) :=
  let block (quote : Char) (rest : List Char) : Option (List Char × List Char) :=
    let rest := (newline? rest).getD rest
    blockString? quote (rest.length + 1) rest
  match text with
  | '"' :: '"' :: '"' :: rest => block '"' rest
  | '\'' :: '\'' :: '\'' :: rest => block '\'' rest
  | '"' :: rest => lineString? '"' (rest.length + 1) rest
  | '\'' :: rest => lineString? '\'' (rest.length + 1) rest
  | _ => none

/-!
### Numbers

Underscores may stand between two digits.
-/

/-- Digits without the underscores between them. -/
def joinDigits? (isDigit : Char → Bool) : List Char → Option (List Char)
  | [] => none
  | [c] => if isDigit c then some [c] else none
  | c :: '_' :: rest =>
    if isDigit c then (joinDigits? isDigit rest).map (c :: ·) else none
  | c :: rest => if isDigit c then (joinDigits? isDigit rest).map (c :: ·) else none

/-- A number in a base that is a power of two, after the mark of the base. -/
def based? (base : Nat) (text : List Char) : Option Int :=
  let isDigit (c : Char) : Bool := (Text.Percent.hexValue? c).any (· < base)
  match joinDigits? isDigit text with
  | none => none
  | some digits =>
    let value :=
      digits.foldl (fun value c => base * value + (Text.Percent.hexValue? c).getD 0) 0
    if value < Text.signedBound then some value else none

/-- Decimal digits without a zero in front of others. -/
def wholeDigits? (text : List Char) : Option (List Char) :=
  match joinDigits? Char.isDigit text with
  | some ('0' :: _ :: _) => none
  | digits => digits

/-- Whether a character starts an exponent. -/
def isExponentMark (c : Char) : Bool := c == 'e' || c == 'E'

/-- The exponent after its mark. -/
def exponent? (text : List Char) : Option Int :=
  let digits := match text with
    | '+' :: rest => (1, joinDigits? Char.isDigit rest)
    | '-' :: rest => (-1, joinDigits? Char.isDigit rest)
    | _ => ((1 : Int), joinDigits? Char.isDigit text)
  match digits with
  | (sign, some digits) => (Text.natural? digits).map fun n => sign * n
  | (_, none) => none

/-- A number written in digits must be finite. -/
def finite? : Binary64 → Option Setting
  | .finite negative significand exponent => some (.float (.finite negative significand exponent))
  | _ => none

/-- A number in decimal after its sign. -/
def decimal? (negative : Bool) (text : List Char) : Option Setting :=
  if text = "inf".toList then some (.float (.infinite negative))
  else if text = "nan".toList then some (.float .undefined)
  else
    let (mantissa, mark) := text.span fun c => !isExponentMark c
    let (whole, point) := mantissa.span (· != '.')
    match wholeDigits? whole, point, mark with
    | none, _, _ => none
    | some digits, [], [] =>
      let value : Int := (Text.natural? digits).getD 0
      let value := if negative then -value else value
      if -(Text.signedBound : Int) ≤ value ∧ value < Text.signedBound then some (.whole value) else none
    | some digits, _, _ =>
      let fraction := match point with
        | [] => some []
        | _ :: fraction => joinDigits? Char.isDigit fraction
      let exponent := match mark with
        | [] => some 0
        | _ :: exponent => exponent? exponent
      match fraction, exponent with
      | some fraction, some exponent =>
        (Text.natural? (digits ++ fraction)).bind fun value =>
          finite? (Binary64.ofDecimal negative value (exponent - fraction.length))
      | _, _ => none

/-- A number. -/
def number? : List Char → Option Setting
  | '0' :: 'x' :: rest => (based? 16 rest).map .whole
  | '0' :: 'o' :: rest => (based? 8 rest).map .whole
  | '0' :: 'b' :: rest => (based? 2 rest).map .whole
  | '+' :: rest => decimal? false rest
  | '-' :: rest => decimal? true rest
  | text => decimal? false text

/-!
### Dates and times

A date or time is kept as its text in standard form: `T` between date and time, `Z` for universal
time, no minus sign on a distance of nothing, and no zeros at the end of the fraction of a second.
Seconds that are not written are not added.
-/

/-- A number of exactly so many digits, within bounds. -/
def within? (count least greatest : Nat) (text : List Char) : Option (Nat × List Char) :=
  let digits := text.take count
  if digits.length = count ∧ digits.all Char.isDigit then
    match Text.natural? digits with
    | some value => if least ≤ value ∧ value ≤ greatest then some (value, text.drop count) else none
    | none => none
  else none

/-- Whether a year is a leap year. -/
def isLeap (year : Nat) : Bool := (year % 4 == 0 && year % 100 != 0) || year % 400 == 0

/-- The count of days of a month. -/
def daysOf (year month : Nat) : Nat :=
  if month == 2 then if isLeap year then 29 else 28
  else if [4, 6, 9, 11].contains month then 30
  else 31

/-- A date of ten characters. -/
def date? (text : List Char) : Option (List Char × List Char) :=
  match within? 4 0 9999 text with
  | some (year, '-' :: rest) =>
    match within? 2 1 12 rest with
    | some (month, '-' :: rest) =>
      (within? 2 1 (daysOf year month) rest).map fun (_, rest) => (text.take 10, rest)
    | _ => none
  | _ => none

/-- The digits of a fraction of a second: nine count, zeros at the end are left out, and one zero stands
for nothing. -/
def fractionDigits (digits : List Char) : List Char :=
  let kept := ((digits.take 9).reverse.dropWhile (· == '0')).reverse
  if kept.isEmpty then ['0'] else kept

/-- The seconds of a time, with an optional fraction. -/
def seconds? (text : List Char) : Option (List Char × List Char) :=
  match within? 2 0 60 text with
  | some (_, '.' :: rest) =>
    let (digits, rest) := rest.span Char.isDigit
    if digits.isEmpty then none else some (text.take 2 ++ '.' :: fractionDigits digits, rest)
  | some (_, rest) => some (text.take 2, rest)
  | none => none

/-- A time of day in hours and minutes, with optional seconds. -/
def time? (text : List Char) : Option (List Char × List Char) :=
  match within? 2 0 23 text with
  | some (_, ':' :: rest) =>
    match within? 2 0 59 rest with
    | some (_, ':' :: rest) =>
      (seconds? rest).map fun (seconds, rest) => (text.take 5 ++ ':' :: seconds, rest)
    | some (_, rest) => some (text.take 5, rest)
    | none => none
  | _ => none

/-- The distance from universal time in hours and minutes, and `Z` for universal time itself. -/
def offset? : List Char → Option (List Char)
  | [] => some []
  | ['Z'] => some ['Z']
  | ['z'] => some ['Z']
  | sign :: rest =>
    if sign == '+' || sign == '-' then
      match within? 2 0 23 rest with
      | some (_, ':' :: minutes) =>
        match within? 2 0 59 minutes with
        | some (_, []) => some (if rest = "00:00".toList then '+' :: rest else sign :: rest)
        | _ => none
      | _ => none
    else none

/-- A date, a time, or both with an optional distance from universal time. -/
def dateTime? (text : List Char) : Option (List Char) :=
  match date? text with
  | some (date, []) => some date
  | some (date, mark :: rest) =>
    if mark == 'T' || mark == 't' || mark == ' ' then
      match time? rest with
      | some (time, rest) => (offset? rest).map fun offset => date ++ 'T' :: time ++ offset
      | none => none
    else none
  | none =>
    match time? text with
    | some (time, []) => some time
    | _ => none

/-- The characters of a word: a number, a date, or a truth value. -/
def isWordChar (c : Char) : Bool :=
  Text.Percent.isAlphanumeric c || c == '+' || c == '-' || c == '.' || c == '_' || c == ':'

/-- A word, and the rest.  One space after a date belongs to it if a time follows. -/
def word (text : List Char) : List Char × List Char :=
  let (word, rest) := text.span isWordChar
  match date? word, rest with
  | some (_, []), ' ' :: c :: after =>
    if c.isDigit then
      let (time, rest) := (c :: after).span isWordChar
      (word ++ ' ' :: time, rest)
    else (word, rest)
  | _, _ => (word, rest)

/-- A value that is a single word. -/
def scalar? (text : List Char) : Option Setting :=
  if text = "true".toList then some (.flag true)
  else if text = "false".toList then some (.flag false)
  else
    match number? text with
    | some value => some value
    | none => (dateTime? text).map fun date => .text (String.ofList date)

end DashletBoard.Toml
