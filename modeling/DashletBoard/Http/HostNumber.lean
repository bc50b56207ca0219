/-
Module: DashletBoard.Http.HostNumber
Purpose: Hosts that are named by their numbers, and the one form in which a number is written.
Main exports: HostNumber.endsInNumber, HostNumber.short?, HostNumber.long?
-/
import DashletBoard.Http.SocketAddress
import DashletBoard.Number.Power
import DashletBoard.Text.Pieces

namespace DashletBoard.Http.HostNumber

open Text

/-!
### Short numbers

A short number has up to four parts with points between them, each in one of three bases.  It is written as
four octets.
-/

/-- The labels of a name.  A point at its end begins no label. -/
def labels (name : List Char) : List (List Char) :=
  match (pieces '.' name).reverse with
  | [] :: last :: before => (last :: before).reverse
  | _ => pieces '.' name

/-- The number of all digits of a text, if there are any and they are digits of a base. -/
def digits? (base : Nat) (text : List Char) : Option Nat :=
  if text.isEmpty then none
  else
    text.foldlM (fun value c => ((Percent.hexValue? c).filter (· < base)).map (base * value + ·)) 0

/-- The number of a part: hexadecimal behind `0x`, octal behind a zero, decimal otherwise. -/
def part? : List Char → Option Nat
  | ['0', 'x'] => some 0
  | '0' :: 'x' :: digits => digits? 16 digits
  | '0' :: digit :: digits => digits? 8 (digit :: digits)
  | digits => digits? 10 digits

/-- Whether a name is read as a number: if its last label looks like one. -/
def endsInNumber (name : List Char) : Bool :=
  (labels name).getLast?.any fun label =>
    (!label.isEmpty && label.all Char.isDigit) || (part? label).isSome

/-- The number of all parts.  All but the last one are octets, and the last one fills those that are left. -/
def whole? (parts : List Nat) : Option Nat :=
  let octets := parts.dropLast
  let bound := twoTo (8 * (4 - octets.length))
  parts.getLast?.bind fun last =>
    if octets.length < 4 && octets.all (· < 256) && last < bound then
      some (octets.foldl (256 * · + ·) 0 * bound + last)
    else none

/-- A number as four octets. -/
def shortText (n : Nat) : List Char :=
  joinPieces '.' ([n / 16777216, n / 65536 % 256, n / 256 % 256, n % 256].map (Nat.toDigits 10))

/-- The form in which a short number is written. -/
def short? (name : List Char) : Option (List Char) :=
  (((labels name).mapM part?).bind whole?).map shortText

example : short? "0x7f.1".toList = some "127.0.0.1".toList := by decide +kernel

/-!
### Long numbers

A long number has eight groups.  It is written in hexadecimal, and two colons stand for the first one of the
longest runs of zeros.
-/

/-- The place and the length of the first one of the longest runs of zeros. -/
def zeroRun (groups : List Nat) : Nat × Nat :=
  (List.range groups.length).foldl (fun longest place =>
    let length := ((groups.drop place).takeWhile (· == 0)).length
    if longest.2 < length then (place, length) else longest) (0, 0)

/-- Groups with colons between them. -/
def groupsText (groups : List Nat) : List Char := joinPieces ':' (groups.map (Nat.toDigits 16))

/-- A number as groups; a single zero is written. -/
def longText (groups : List Nat) : List Char :=
  let (place, length) := zeroRun groups
  if length < 2 then groupsText groups
  else groupsText (groups.take place) ++ ':' :: ':' :: groupsText (groups.drop (place + length))

/-- The form in which a long number is written. -/
def long? (text : List Char) : Option (List Char) :=
  match SocketAddress.groups? text with
  | some (groups, []) => some (longText groups)
  | _ => none

example : long? "2001:DB8:0:0:1:0:0:1".toList = some "2001:db8::1:0:0:1".toList := by decide +kernel

end DashletBoard.Http.HostNumber
