/-
Module: DashletBoard.Number.Binary64
Purpose: Binary floating-point numbers of 64 bits, in exact arithmetic on natural numbers.
Main exports: Binary64, Binary64.ofRatio, Binary64.ofDecimal, Binary64.mul, Binary64.div,
  Binary64.nearestNatural?
-/
import DashletBoard.Number.Power

namespace DashletBoard

/-- A binary floating-point number of 64 bits.  A finite one is a significand below `2 ^ 53` times a
power of two; the significand has all 53 bits unless the exponent is the least one, so that equal
numbers of one sign are equal as values of this type. -/
inductive Binary64 where
  | finite (negative : Bool) (significand : Nat) (exponent : Int)
  | infinite (negative : Bool)
  | undefined
deriving Repr, Inhabited, DecidableEq

namespace Binary64

/-- The least exponent of two that a finite number has. -/
def leastExponent : Int := -1074

/-- The greatest exponent of two that a finite number has. -/
def greatestExponent : Int := 971

/-- Zero, with a sign. -/
def zero (negative : Bool) : Binary64 := .finite negative 0 leastExponent

/-- A quotient rounded to the nearest whole number, a half to the even neighbour. -/
def roundedQuotient (numerator denominator : Nat) : Nat :=
  let quotient := numerator / denominator
  let twice := 2 * (numerator % denominator)
  if twice < denominator then quotient
  else if denominator < twice then quotient + 1
  else quotient + quotient % 2

/-- Numerator and denominator of a ratio divided by a power of two. -/
def scaleDown (numerator denominator : Nat) (exponent : Int) : Nat × Nat :=
  (numerator * twoTo (-exponent).toNat, denominator * twoTo exponent.toNat)

/-- The finite number of a rounded significand: a significand of `2 ^ 53` moves into the exponent, and
too great an exponent makes the number infinite. -/
def ofRounded (negative : Bool) (significand : Nat) (exponent : Int) : Binary64 :=
  let (significand, exponent) :=
    if significand = twoTo 53 then (twoTo 52, exponent + 1) else (significand, exponent)
  if greatestExponent < exponent then .infinite negative
  else .finite negative significand exponent

/-- The number nearest to a ratio of natural numbers, a tie to the even significand. -/
def ofRatio (negative : Bool) (numerator denominator : Nat) : Binary64 :=
  if numerator = 0 then zero negative
  else
    let guess : Int := (numerator.log2 : Int) - (denominator.log2 : Int) - 53
    let (n, d) := scaleDown numerator denominator guess
    let exponent := max leastExponent (if n / d < twoTo 53 then guess else guess + 1)
    let (n, d) := scaleDown numerator denominator exponent
    ofRounded negative (roundedQuotient n d) exponent

/-- The number nearest to `digits · 10 ^ exponent`.  Exponents far outside the range of finite numbers
are settled by size, without computing the power. -/
def ofDecimal (negative : Bool) (digits : Nat) (exponent : Int) : Binary64 :=
  if digits = 0 then zero negative
  else if 400 < exponent then .infinite negative
  else if exponent < -(400 + (digits.log2 : Int)) then zero negative
  else ofRatio negative (digits * tenTo exponent.toNat) (tenTo (-exponent).toNat)

/-- The product of two numbers, rounded; a product with a number that is not finite is not needed and
left undefined. -/
def mul : Binary64 → Binary64 → Binary64
  | .finite s m e, .finite t n f =>
    ofRatio (s != t) (m * n * twoTo (e + f).toNat) (twoTo (-(e + f)).toNat)
  | _, _ => .undefined

/-- The quotient of two numbers, rounded; a divisor that is zero or not finite is not needed and left
undefined. -/
def div : Binary64 → Binary64 → Binary64
  | .finite s m e, .finite t n f =>
    if n = 0 then .undefined
    else ofRatio (s != t) (m * twoTo (e - f).toNat) (n * twoTo (f - e).toNat)
  | _, _ => .undefined

/-- The natural number nearest to a number, a half away from zero; negative and undefined numbers give
zero, and an infinite one has none. -/
def nearestNatural? : Binary64 → Option Nat
  | .finite negative significand exponent =>
    if negative then some 0
    else
      let (n, d) := (significand * twoTo exponent.toNat, twoTo (-exponent).toNat)
      some ((2 * n + d) / (2 * d))
  | .infinite negative => if negative then some 0 else none
  | .undefined => some 0

end Binary64

end DashletBoard
