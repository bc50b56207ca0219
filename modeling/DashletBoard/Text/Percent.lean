/-
Module: DashletBoard.Text.Percent
Purpose: Percent escapes: every byte outside a kept set is written as `%` and two hexadecimal digits.
Main exports: hexDigit, hexValue?, escape, encode, decodeBytes, decode?, isUnreserved
-/
import DashletBoard.Text.Utf8

namespace DashletBoard.Text.Percent

/-!
### Hexadecimal digits
-/

/-- The hexadecimal digit of a number below sixteen, letters in upper case. -/
def hexDigit (n : Nat) : Char :=
  if n < 10 then Char.ofNat (48 + n) else Char.ofNat (55 + n)

/-- The number that a hexadecimal digit of either case stands for. -/
def hexValue? (c : Char) : Option Nat :=
  if 48 ≤ c.toNat ∧ c.toNat ≤ 57 then some (c.toNat - 48)
  else if 65 ≤ c.toNat ∧ c.toNat ≤ 70 then some (c.toNat - 55)
  else if 97 ≤ c.toNat ∧ c.toNat ≤ 102 then some (c.toNat - 87)
  else none

/-!
### Writing escapes
-/

/-- One byte as `%XX`. -/
def escape (byte : UInt8) : List Char :=
  ['%', hexDigit (byte.toNat / 16), hexDigit (byte.toNat % 16)]

/-- Writes every character outside the kept set as the escapes of its UTF-8 bytes. -/
def encode (kept : Char → Bool) (text : List Char) : List Char :=
  text.flatMap fun c => if kept c then [c] else (String.utf8EncodeChar c).flatMap escape

/-- Letters and digits of ASCII. -/
def isAlphanumeric (c : Char) : Bool :=
  c.isAlpha || c.isDigit

/-- The characters that never need an escape in a URL: letters, digits and `-` `_` `.` `~`. -/
def isUnreserved (c : Char) : Bool :=
  isAlphanumeric c || c == '-' || c == '_' || c == '.' || c == '~'

/-!
### Reading escapes

A `%` that is not followed by two hexadecimal digits stands for itself.
-/

/-- The bytes that a text with escapes stands for. -/
def decodeBytes : List Char → List UInt8
  | [] => []
  | '%' :: high :: low :: rest =>
    match hexValue? high, hexValue? low with
    | some x, some y => UInt8.ofNat (16 * x + y) :: decodeBytes rest
    | _, _ => String.utf8EncodeChar '%' ++ decodeBytes (high :: low :: rest)
  | c :: rest => String.utf8EncodeChar c ++ decodeBytes rest

/-- The text that a text with escapes stands for; none if its bytes are no UTF-8. -/
def decode? (text : List Char) : Option String :=
  ofUtf8? (decodeBytes text)

end DashletBoard.Text.Percent
