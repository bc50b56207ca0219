/-
Module: DashletBoard.Grid
Purpose: Placement of the widgets of one tab, without overlap.
Main exports: Geometry, Grid, GridError, Grid.insert, Grid.nextFree?, Grid.add?, Grid.remove,
  Grid.move, Grid.setShown, Grid.records
-/
import DashletBoard.Dashlet

namespace DashletBoard

/-- Where a tab looks for free cells: in rows of `columns` cells, beginning with column and row
`origin`. -/
structure Geometry where
  columns : UInt32 := 3
  origin : UInt32 := 1
deriving Repr, Inhabited, DecidableEq

/-- Why a widget cannot be placed, moved, changed or removed. -/
inductive GridError where
  | occupied (position : Position)
  | notFound (position : Position)
deriving Repr, DecidableEq

/-- The text of an error. -/
def GridError.message : GridError → String
  | .occupied p => "grid position " ++ p.text ++ " is already occupied"
  | .notFound p => "no dashlet at grid position " ++ p.text

/-- The widgets of one tab, in the order in which they were placed. -/
structure Grid where
  dashboard : String
  geometry : Geometry
  dashlets : List Dashlet := []
deriving Repr, Inhabited, DecidableEq

namespace Grid

/-!
### Looking
-/

/-- The count of widgets. -/
def size (grid : Grid) : Nat := grid.dashlets.length

/-- Whether there are no widgets. -/
def isEmpty (grid : Grid) : Bool := grid.dashlets.isEmpty

/-- The widget at a position. -/
def get? (grid : Grid) (position : Position) : Option Dashlet :=
  grid.dashlets.find? fun d => d.position == position

/-- Whether there is a widget at a position. -/
def isOccupied (grid : Grid) (position : Position) : Bool := (grid.get? position).isSome

/-- The records to store: widgets of this tab, in canonical order. -/
def records (grid : Grid) : List Dashlet :=
  canonicalOrder (grid.dashlets.map fun d => d.stamped grid.dashboard)

/-!
### The band of cells that is searched for a free one

The band has the columns from the origin on, as many as the geometry says but at least one, and the
rows from the origin on.  Columns and rows end where 32-bit words end.
-/

end Grid

/-- The sum of two words, or the greatest word if the sum is no word. -/
def cappedSum (a b : UInt32) : UInt32 := UInt32.ofNat (min (a.toNat + b.toNat) (UInt32.size - 1))

/-- The last column of the band. -/
def Geometry.lastColumn (g : Geometry) : UInt32 := cappedSum g.origin (max g.columns 1 - 1)

namespace Grid

/-- The first free cell of a row, from a column on and through as many more as are given. -/
def freeInRow? (grid : Grid) (row : UInt32) : Nat → UInt32 → Option Position
  | 0, column => if grid.isOccupied ⟨column, row⟩ then none else some ⟨column, row⟩
  | more + 1, column =>
    if grid.isOccupied ⟨column, row⟩ then freeInRow? grid row more (column + 1)
    else some ⟨column, row⟩

/-- The first free cell of the part of a row that is in the band. -/
def freeInBandRow? (grid : Grid) (row : UInt32) : Option Position :=
  let g := grid.geometry
  grid.freeInRow? row (g.lastColumn.toNat - g.origin.toNat) g.origin

/-- The first free cell of the band, from a row on and through as many more as are given. -/
def freeFromRow? (grid : Grid) : Nat → UInt32 → Option Position
  | 0, row => grid.freeInBandRow? row
  | more + 1, row =>
    match grid.freeInBandRow? row with
    | some free => some free
    | none => freeFromRow? grid more (cappedSum row 1)

/-- The first free cell of the band, searched row by row.  After the greatest word as a row comes the
same row again: if that one has no free cell either, the search has no end. -/
def nextFree? (grid : Grid) : Option Position :=
  grid.freeFromRow? (UInt32.size - 1 - grid.geometry.origin.toNat) grid.geometry.origin

/-!
### Changing
-/

/-- Places a widget at its own position. -/
def insert (grid : Grid) (d : Dashlet) : Except GridError Grid :=
  if grid.isOccupied d.position then .error (.occupied d.position)
  else .ok { grid with dashlets := grid.dashlets ++ [d] }

/-- Places a widget at the first free cell; none if the search for it has no end. -/
def add? (grid : Grid) (d : Dashlet) : Option (Position × Grid) :=
  grid.nextFree?.map fun position =>
    (position, { grid with dashlets := grid.dashlets ++ [d.moved position] })

/-- Takes the widget at a position out of the grid. -/
def remove (grid : Grid) (position : Position) : Except GridError (Dashlet × Grid) :=
  match grid.get? position with
  | none => .error (.notFound position)
  | some d =>
    .ok (d, { grid with dashlets := grid.dashlets.eraseP fun d => d.position == position })

/-- Where the first widget at a position is among the widgets. -/
def index? (grid : Grid) (position : Position) : Option Nat :=
  grid.dashlets.findIdx? fun d => d.position == position

/-- The widgets after the one at the target, if there is one, took the cell that a move vacates. -/
def vacated (grid : Grid) (source target : Position) : List Dashlet :=
  match grid.index? target with
  | some other => grid.dashlets.modify other (·.moved source)
  | none => grid.dashlets

/-- Moves a widget; a widget at the target takes the vacated cell. -/
def move (grid : Grid) (source target : Position) : Except GridError Grid :=
  match grid.index? source with
  | none => .error (.notFound source)
  | some index =>
    if source = target then .ok grid
    else
      .ok { grid with
        dashlets := (grid.vacated source target).modify index (·.moved target) }

/-- Shows or hides the widget at a position. -/
def setShown (grid : Grid) (position : Position) (shown : Bool) : Except GridError Grid :=
  match grid.index? position with
  | none => .error (.notFound position)
  | some index =>
    .ok { grid with dashlets := grid.dashlets.modify index fun d => { d with shown := shown } }

end Grid

end DashletBoard
