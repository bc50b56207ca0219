/-
Module: DashletBoard.Text.Form
Purpose: Form-urlencoded lists of name and value pairs, as in a URL's query and in a form's body.
Main exports: encodePart, encode, decodePart?, decode
-/
import DashletBoard.Text.Pieces
import DashletBoard.Text.Percent

namespace DashletBoard.Text.Form

/-- The characters written as they are: letters, digits and `*` `-` `.` `_`. -/
def isKept (c : Char) : Bool :=
  Percent.isAlphanumeric c || c == '*' || c == '-' || c == '.' || c == '_'

/-- One name or value: a space becomes `+`, any other character outside the kept set its escapes. -/
def encodePart (part : String) : List Char :=
  part.toList.flatMap fun c =>
    if c == ' ' then ['+']
    else if isKept c then [c]
    else (String.utf8EncodeChar c).flatMap Percent.escape

/-- Name and value around an equals sign. -/
def encodePair (pair : String × String) : List Char :=
  encodePart pair.1 ++ '=' :: encodePart pair.2

/-- The pairs in order, with an ampersand between them. -/
def encode (pairs : List (String × String)) : List Char :=
  joinPieces '&' (pairs.map encodePair)

/-- Reads one name or value: `+` is a space and escapes are read after that; none if the bytes are
no UTF-8. -/
def decodePart? (part : List Char) : Option String :=
  Percent.decode? (part.map fun c => if c == '+' then ' ' else c)

/-- Reads one piece between ampersands; without an equals sign the value is empty. -/
def decodePair (piece : List Char) : Option String × Option String :=
  let (name, value) := splitAtFirst '=' piece
  (decodePart? name, decodePart? (value.getD []))

/-- Reads a list of pairs; empty pieces are passed over. -/
def decode (text : List Char) : List (Option String × Option String) :=
  ((pieces '&' text).filter fun piece => !piece.isEmpty).map decodePair

end DashletBoard.Text.Form
