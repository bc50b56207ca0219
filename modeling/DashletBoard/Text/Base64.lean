/-
Module: DashletBoard.Text.Base64
Purpose: Base64: three bytes are written as four digits of six bits, with padding at the end.
Main exports: digit, encode
-/

namespace DashletBoard.Text.Base64

/-- The sixty-four digits in order of their values. -/
def digits : List Char :=
  "ABCDEFGHIJKLMNOPQRSTUVWXYZabcdefghijklmnopqrstuvwxyz0123456789+/".toList

/-- The digit of the lowest six bits of a number. -/
def digit (n : Nat) : Char := digits.getD (n % 64) 'A'

/-- Writes bytes in groups of three.  A last group of one or two bytes is filled up with zero bits, and
an equals sign stands for every digit that holds no bit of it. -/
def encode : List UInt8 → List Char
  | [] => []
  | [a] =>
    let bits := a.toNat * 16
    [digit (bits / 64), digit bits, '=', '=']
  | [a, b] =>
    let bits := (a.toNat * 256 + b.toNat) * 4
    [digit (bits / 4096), digit (bits / 64), digit bits, '=']
  | a :: b :: c :: rest =>
    let bits := (a.toNat * 256 + b.toNat) * 256 + c.toNat
    digit (bits / 262144) :: digit (bits / 4096) :: digit (bits / 64) :: digit bits :: encode rest

end DashletBoard.Text.Base64
