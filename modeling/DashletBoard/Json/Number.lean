/-
Module: DashletBoard.Json.Number
Purpose: The number that a JSON numeral stands for: a whole number of 64 bits, or a floating-point number.
Main exports: NumberValue, Numeral.value?, Numeral.word?
-/
import DashletBoard.Json.Value
import DashletBoard.Number.Binary64
import DashletBoard.Text.Digits

namespace DashletBoard

/-- A number read from a JSON text. -/
inductive NumberValue where
  | whole (value : Int)
  | float (value : Binary64)
deriving Repr, DecidableEq

namespace Numeral

/-!
### Digits into a word

Digits are gathered into a significand of 64 bits.  The digit that would overflow it, and every digit
after it, no longer counts: in the whole part it only raises the exponent, in the fraction it is
dropped.
-/

/-- The greatest significand. -/
def greatestSignificand : Nat := UInt64.size - 1

/-- The value of a digit. -/
def digit (c : Char) : Nat := c.toNat - 48

/-- Gathers digits while the significand fits, and gives the count of digits taken and the digits
left. -/
def gather : Nat → Nat → List Char → Nat × Nat × List Char
  | significand, taken, [] => (significand, taken, [])
  | significand, taken, c :: rest =>
    let next := 10 * significand + digit c
    if greatestSignificand < next then (significand, taken, c :: rest)
    else gather next (taken + 1) rest

/-- The exponent that is written, zero if there is none. -/
def writtenExponent (n : Numeral) : Int :=
  match n.exponent with
  | none => 0
  | some (negative, digits) =>
    let value : Int := Int.ofNat (digits.foldl (fun value c => 10 * value + digit c) 0)
    if negative then -value else value

/-!
### Scaling by a power of ten

The significand is rounded to a floating-point number first and then multiplied with, or divided by, the
floating-point number nearest to the power of ten.  The result may therefore differ in its last bit
from the number nearest to the decimal.
-/

/-- The greatest power of ten that is a finite number. -/
def greatestPower : Nat := 308

/-- The floating-point number nearest to a power of ten. -/
def powerOfTen (n : Nat) : Binary64 := Binary64.ofDecimal false 1 (Int.ofNat n)

/-- Divides by a power of ten in steps that stay in range; a number that has become zero stays zero. -/
def shrink : Nat → Binary64 → Nat → Binary64
  | 0, value, _ => value
  | fuel + 1, value, places =>
    if places ≤ greatestPower then value.div (powerOfTen places)
    else if value = Binary64.zero false then value
    else shrink fuel (value.div (powerOfTen greatestPower)) (places - greatestPower)

/-- A significand times a power of ten; none if the result is too great for a finite number. -/
def scale? (significand : Nat) (exponent : Int) : Option Binary64 :=
  let value := Binary64.ofRatio false significand 1
  if exponent < 0 then some (shrink 4 value (-exponent).toNat)
  else if significand = 0 then some value
  else if (greatestPower : Int) < exponent then none
  else match value.mul (powerOfTen exponent.toNat) with
    | .finite s m e => some (.finite s m e)
    | _ => none

/-- Changes the sign of a number. -/
def withSign (negative : Bool) : Binary64 → Binary64
  | .finite _ significand exponent => .finite negative significand exponent
  | .infinite _ => .infinite negative
  | .undefined => .undefined

/-- The number of a numeral: a whole number if it is written without point and exponent and fits into
64 bits, signed or not; else a floating-point number.  Minus zero is a floating-point number.  None if
the number is out of range. -/
def value? (n : Numeral) : Option NumberValue :=
  let (significand, _, left) := gather 0 0 n.whole
  let float (significand : Nat) (exponent : Int) : Option NumberValue :=
    (scale? significand exponent).map fun value => .float (withSign n.negative value)
  match n.fraction, n.exponent, left with
  | none, none, [] =>
    if !n.negative then some (.whole significand)
    else if 0 < significand && significand ≤ Text.signedBound then some (.whole (-significand))
    else float significand 0
  | none, _, _ => float significand (left.length + n.writtenExponent)
  | some digits, _, _ =>
    let (significand, places, _) := gather significand 0 digits
    float significand (left.length - places + n.writtenExponent)

/-- The 32-bit word that a numeral stands for: digits only, and in range. -/
def word? (n : Numeral) : Option UInt32 :=
  if n.negative || n.fraction.isSome || n.exponent.isSome then none
  else match Text.natural? n.whole with
    | some value => if value < UInt32.size then some (UInt32.ofNat value) else none
    | none => none

end Numeral

end DashletBoard
