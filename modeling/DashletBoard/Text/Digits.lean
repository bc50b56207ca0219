/-
Module: DashletBoard.Text.Digits
Purpose: Whole numbers written with decimal digits, and the ranges of machine words.
Main exports: digitValue?, natural?, word?, signedBound, signed64?
-/

namespace DashletBoard.Text

/-- The value of a decimal digit of ASCII. -/
def digitValue? (c : Char) : Option Nat :=
  if c.isDigit then some (c.toNat - 48) else none

/-- The number that a list of digits continues, most significant digit first. -/
def continueNatural : Nat → List Char → Option Nat
  | value, [] => some value
  | value, c :: rest =>
    match digitValue? c with
    | some digit => continueNatural (10 * value + digit) rest
    | none => none

/-- A number written with one or more decimal digits; leading zeros are allowed. -/
def natural? : List Char → Option Nat
  | [] => none
  | text => continueNatural 0 text

/-- A 32-bit word written with digits after an optional plus sign. -/
def word? (text : List Char) : Option UInt32 :=
  let digits := match text with
    | '+' :: rest => rest
    | _ => text
  match natural? digits with
  | some n => if n < UInt32.size then some (UInt32.ofNat n) else none
  | none => none

/-- The first natural number that no signed number of 64 bits reaches. -/
def signedBound : Nat := 9223372036854775808

/-- A signed number of 64 bits written with digits after an optional sign. -/
def signed64? (text : List Char) : Option Int :=
  let value : Option Int := match text with
    | '+' :: rest => (natural? rest).map Int.ofNat
    | '-' :: rest => (natural? rest).map fun n => -Int.ofNat n
    | _ => (natural? text).map Int.ofNat
  value.filter fun n => -(signedBound : Int) ≤ n && n < signedBound

end DashletBoard.Text
