/-
Module: DashletBoard.Number.Shortest
Purpose: The shortest decimal that reads back as a given floating-point number, written without exponent.
Main exports: Decimal, Binary64.shortest, Binary64.plainText
-/
import DashletBoard.Number.Binary64

namespace DashletBoard

/-- The decimal `digits · 10 ^ exponent`. -/
structure Decimal where
  digits : Nat
  exponent : Int
deriving Repr, Inhabited, DecidableEq

namespace Binary64

/-- Numerator and denominator of the size of a finite number divided by a power of ten. -/
def decimalRatio (significand : Nat) (exponent place : Int) : Nat × Nat :=
  (significand * twoTo exponent.toNat * tenTo (-place).toNat,
    twoTo (-exponent).toNat * tenTo place.toNat)

/-- The place of the first decimal digit: the greatest power of ten not above a positive number.  The
estimate from the count of bits is off by at most one place. -/
def leadingPlace (significand : Nat) (exponent : Int) : Int :=
  let estimate := (((significand.log2 : Int) + exponent) * 30103).fdiv 100000
  let reaches (place : Int) : Bool :=
    let (n, d) := decimalRatio significand exponent place
    d ≤ n
  if reaches (estimate + 1) then estimate + 1
  else if reaches estimate then estimate
  else estimate - 1

/-- The neighbours of a positive number among the decimals with a given count of digits that read back
as the number; the nearer of the two if both do, and the greater one in the middle between them. -/
def readingBack? (significand : Nat) (exponent : Int) (count : Nat) : Option Decimal :=
  let place := leadingPlace significand exponent - (count : Int) + 1
  let (n, d) := decimalRatio significand exponent place
  let below := n / d
  let readsBack (digits : Nat) : Bool :=
    ofDecimal false digits place == .finite false significand exponent
  match readsBack below, readsBack (below + 1) with
  | true, true => some ⟨if 2 * (n % d) < d then below else below + 1, place⟩
  | true, false => some ⟨below, place⟩
  | false, true => some ⟨below + 1, place⟩
  | false, false => none

/-- The decimal with the fewest digits that reads back as a positive number; seventeen digits always
do. -/
def shortest (significand : Nat) (exponent : Int) : Decimal :=
  if significand = 0 then ⟨0, 0⟩
  else ((List.range 17).findSome? fun k => readingBack? significand exponent (k + 1)).getD ⟨0, 0⟩

end Binary64

/-- A decimal in positional notation: no exponent, no zeros at the end of a fraction, and no fraction
for a whole number. -/
def Decimal.plainText (value : Decimal) : List Char :=
  let digits := Nat.toDigits 10 value.digits
  if 0 ≤ value.exponent then
    if value.digits = 0 then ['0'] else digits ++ List.replicate value.exponent.toNat '0'
  else
    let places := (-value.exponent).toNat
    let padded := List.replicate (places + 1 - digits.length) '0' ++ digits
    let whole := padded.take (padded.length - places)
    let fraction := ((padded.drop (padded.length - places)).reverse.dropWhile (· == '0')).reverse
    if fraction.isEmpty then whole else whole ++ '.' :: fraction

/-- A floating-point number in positional notation, with the fewest digits that read back. -/
def Binary64.plainText : Binary64 → String
  | .finite negative significand exponent =>
    let digits := (shortest significand exponent).plainText
    String.ofList (if negative then '-' :: digits else digits)
  | .infinite negative => if negative then "-inf" else "inf"
  | .undefined => "NaN"

end DashletBoard
