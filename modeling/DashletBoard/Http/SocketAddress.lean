/-
Module: DashletBoard.Http.SocketAddress
Purpose: The addresses at which the service can listen: a host's number and a port.
Main exports: SocketAddress, SocketAddress.parse?
-/
import DashletBoard.Text.Percent

namespace DashletBoard.Http

open Text

/-- An address to listen at.  A host's number has four octets, or eight groups of sixteen bits and perhaps
the number of a zone. -/
inductive SocketAddress where
  | short (octets : List Nat) (port : Nat)
  | long (groups : List Nat) (zone port : Nat)
deriving Repr, DecidableEq

namespace SocketAddress

/-!
### Numbers and separators

Each reader takes what it reads from the front of a text, and gives it with the rest.
-/

/-- Reads a number with all digits that are there, if they are not too many and the number is below a
bound. -/
def number? (base mostDigits bound : Nat) (text : List Char) : Option (Nat × List Char) :=
  let isDigit (c : Char) : Bool := (Percent.hexValue? c).any (· < base)
  let digits := text.takeWhile isDigit
  let value := digits.foldl (fun value c => base * value + (Percent.hexValue? c).getD 0) 0
  if digits.isEmpty || mostDigits < digits.length || bound ≤ value then none
  else some (value, text.dropWhile isDigit)

/-- Reads an octet; it has no zeros in front. -/
def octet? (text : List Char) : Option (Nat × List Char) :=
  match text with
  | '0' :: _ => number? 10 1 256 text
  | _ => number? 10 3 256 text

/-- Reads a given character. -/
def mark? (mark : Char) : List Char → Option (List Char)
  | c :: rest => if c = mark then some rest else none
  | [] => none

/-- Reads four octets with points between them. -/
def octets? (text : List Char) : Option (List Nat × List Char) := do
  let (a, text) ← octet? text
  let (b, text) ← octet? (← mark? '.' text)
  let (c, text) ← octet? (← mark? '.' text)
  let (d, text) ← octet? (← mark? '.' text)
  return ([a, b, c, d], text)

/-- The two groups of four octets. -/
def groupsOfOctets : List Nat → List Nat
  | [a, b, c, d] => [256 * a + b, 256 * c + d]
  | _ => []

/-!
### Groups

One run of zero groups may be left out; two colons stand for it.  Octets may stand for the last
two groups.
-/

/-- Reads at most so many groups with colons between them, and tells whether octets end them. -/
def someGroups : Nat → Bool → List Char → List Nat × Bool × List Char
  | 0, _, text => ([], false, text)
  | limit + 1, isFirst, text =>
    let start := if isFirst then some text else mark? ':' text
    match if limit = 0 then none else start.bind octets? with
    | some (octets, rest) => (groupsOfOctets octets, true, rest)
    | none =>
      match start.bind (number? 16 4 UInt16.size) with
      | some (group, rest) =>
        let (others, octetsEnd, rest) := someGroups limit false rest
        (group :: others, octetsEnd, rest)
      | none => ([], false, text)

/-- Reads eight groups, of which zeros may be left out. -/
def groups? (text : List Char) : Option (List Nat × List Char) :=
  match someGroups 8 true text with
  | (front, octetsEnd, rest) =>
    if front.length = 8 then some (front, rest)
    else if octetsEnd then none
    else
      match rest with
      | ':' :: ':' :: rest =>
        let (back, _, rest) := someGroups (7 - front.length) true rest
        some (front ++ List.replicate (8 - front.length - back.length) 0 ++ back, rest)
      | _ => none

/-- Reads a colon and a port. -/
def port? (text : List Char) : Option (Nat × List Char) :=
  (mark? ':' text).bind fun rest => number? 10 rest.length UInt16.size rest

/-- Reads the number of a zone after a percent sign; without one it is zero. -/
def zone? (text : List Char) : Option (Nat × List Char) :=
  match text with
  | '%' :: rest => number? 10 rest.length UInt32.size rest
  | _ => some (0, text)

/-- Reads an address from the front of a text. -/
def read? (text : List Char) : Option (SocketAddress × List Char) :=
  match text with
  | '[' :: text => do
    let (groups, text) ← groups? text
    let (zone, text) ← zone? text
    let (port, text) ← port? (← mark? ']' text)
    return (.long groups zone port, text)
  | _ => do
    let (octets, text) ← octets? text
    let (port, text) ← port? text
    return (.short octets port, text)

/-- Reads a text that is an address and nothing more. -/
def parse? (text : String) : Option SocketAddress :=
  match read? text.toList with
  | some (address, []) => some address
  | _ => none

end SocketAddress

end DashletBoard.Http
