/-
Module: DashletBoard.Number.FloatText
Purpose: Reading a floating-point number from free text: sign, digits with a point, exponent, or a name.
Main exports: Binary64.ofText?
-/
import DashletBoard.Number.Binary64
import DashletBoard.Text.Digits

namespace DashletBoard.Binary64

open Text

/-- The digits at the front of a text, and the rest. -/
def spanDigits (text : List Char) : List Char × List Char :=
  text.span Char.isDigit

/-- An exponent after its letter: digits with an optional sign, and nothing after them. -/
def exponent? : List Char → Option Int
  | '+' :: rest => (natural? rest).map Int.ofNat
  | '-' :: rest => (natural? rest).map fun n => -Int.ofNat n
  | rest => (natural? rest).map Int.ofNat

/-- A number without sign: digits on at least one side of an optional point, then an optional
exponent. -/
def unsigned? (negative : Bool) (text : List Char) : Option Binary64 :=
  let (whole, rest) := spanDigits text
  let (fraction, rest) := match rest with
    | '.' :: after => spanDigits after
    | _ => ([], rest)
  let exponent : Option Int := match rest with
    | [] => some 0
    | c :: after => if c = 'e' ∨ c = 'E' then exponent? after else none
  match natural? (whole ++ fraction), exponent with
  | some digits, some exponent => some (ofDecimal negative digits (exponent - fraction.length))
  | _, _ => none

/-- A number named or written in digits, after an optional sign.  The names `inf`, `infinity` and
`nan` may be in any case. -/
def ofText? (text : List Char) : Option Binary64 :=
  let (negative, rest) := match text with
    | '+' :: rest => (false, rest)
    | '-' :: rest => (true, rest)
    | _ => (false, text)
  let name := String.ofList (rest.map Char.toLower)
  if name = "inf" ∨ name = "infinity" then some (.infinite negative)
  else if name = "nan" then some .undefined
  else unsigned? negative rest

end DashletBoard.Binary64
