/-
Module: DashletBoard.Position
Purpose: Cells of a tab's grid, their text, and their row-major order.
Main exports: Position, Position.text, Position.le, sortByPosition
-/

namespace DashletBoard

/-- A cell of the grid: column and row, both 32-bit words. -/
structure Position where
  col : UInt32
  row : UInt32
deriving Repr, Inhabited, DecidableEq

namespace Position

/-- The text of a position: column, then row, in parentheses. -/
def text (p : Position) : String :=
  "(" ++ toString p.col.toNat ++ ", " ++ toString p.row.toNat ++ ")"

/-!
### Row-major order

Rows come first and columns break ties, so that the order of positions is the order in which a page is
read.
-/

/-- Compares the rows, then the columns. -/
instance : Ord Position where
  compare p q := (compare p.row q.row).then (compare p.col q.col)

/-- Whether a position is not after another one. -/
def le (p q : Position) : Bool := p.row < q.row || (p.row == q.row && p.col ≤ q.col)

instance : LE Position := ⟨fun p q => p.le q = true⟩

instance : LT Position := ⟨fun p q => p.le q = true ∧ p ≠ q⟩

instance (p q : Position) : Decidable (p ≤ q) := inferInstanceAs (Decidable (p.le q = true))

instance (p q : Position) : Decidable (p < q) :=
  inferInstanceAs (Decidable (p.le q = true ∧ p ≠ q))

end Position

/-!
### Ordering by position
-/

/-- Puts an element in front of the first element that is not before it. -/
def insertByPosition (position : α → Position) (element : α) : List α → List α
  | [] => [element]
  | other :: rest =>
    if position element ≤ position other then element :: other :: rest
    else other :: insertByPosition position element rest

/-- Sorts elements by position, keeping the order of elements at equal positions. -/
def sortByPosition (position : α → Position) (elements : List α) : List α :=
  elements.foldr (insertByPosition position) []

end DashletBoard
