/-
Module: DashletBoard.Text.Pieces
Purpose: Cutting a text at a separator, and replacing the first occurrence of a pattern.
Main exports: pieces, joinPieces, joinPieces_pieces, splitAtFirst, replaceFirst
-/

namespace DashletBoard.Text

/-!
### Pieces between separators

A text always has at least one piece: the empty text has the single empty piece.  Joining the pieces
with the separator gives the text back, so nothing is trimmed and no empty piece is dropped.
-/

/-- Puts a character in front of the first piece. -/
def growFirst (c : Char) : List (List Char) → List (List Char)
  | [] => [[c]]
  | first :: others => (c :: first) :: others

/-- The pieces of a text between the occurrences of a separator, empty ones included. -/
def pieces (separator : Char) : List Char → List (List Char)
  | [] => [[]]
  | c :: rest =>
    if c = separator then [] :: pieces separator rest else growFirst c (pieces separator rest)

/-- Puts a separator between consecutive pieces. -/
def joinPieces (separator : Char) : List (List Char) → List Char
  | [] => []
  | [piece] => piece
  | piece :: next :: others => piece ++ separator :: joinPieces separator (next :: others)

/-- Every text has a first piece. -/
theorem pieces_ne_nil (separator : Char) (text : List Char) : pieces separator text ≠ [] := by
  cases text with
  | nil => simp [pieces]
  | cons c rest =>
    unfold pieces growFirst
    split
    · simp
    · split <;> simp

/-- A character grown onto the first piece comes first in the joined text. -/
theorem joinPieces_growFirst (separator c : Char) {parts : List (List Char)} (h : parts ≠ []) :
    joinPieces separator (growFirst c parts) = c :: joinPieces separator parts := by
  match parts, h with
  | [_], _ => rfl
  | _ :: _ :: _, _ => rfl

/-- An empty piece in front puts a separator in front of the joined text. -/
theorem joinPieces_nil_cons (separator : Char) {parts : List (List Char)} (h : parts ≠ []) :
    joinPieces separator ([] :: parts) = separator :: joinPieces separator parts := by
  match parts, h with
  | _ :: _, _ => rfl

/-- Joining the pieces of a text gives the text back. -/
theorem joinPieces_pieces (separator : Char) (text : List Char) :
    joinPieces separator (pieces separator text) = text := by
  induction text with
  | nil => rfl
  | cons c rest ih =>
    have hne := pieces_ne_nil separator rest
    by_cases hc : c = separator
    · simp [pieces, hc, joinPieces_nil_cons separator hne, ih]
    · simp [pieces, hc, joinPieces_growFirst separator c hne, ih]

/-- The text before the first separator, and the text after it if there is one. -/
def splitAtFirst (separator : Char) : List Char → List Char × Option (List Char)
  | [] => ([], none)
  | c :: rest =>
    if c = separator then ([], some rest)
    else
      let (before, after) := splitAtFirst separator rest
      (c :: before, after)

/-!
### Replacing the first occurrence
-/

/-- Replaces the first occurrence of a pattern, reading from the left; a text without the pattern
stays as it is. -/
def replaceFirst (pattern replacement : List Char) : List Char → List Char
  | [] => if pattern.isEmpty then replacement else []
  | c :: rest =>
    if pattern.isPrefixOf (c :: rest) then replacement ++ (c :: rest).drop pattern.length
    else c :: replaceFirst pattern replacement rest

end DashletBoard.Text
