/-
Module: DashletBoard.Proofs.FreeCell
Purpose: The search for a free cell, column by column and row by row, finds the least free cell of the
  band, and ends exactly when there is one.
Main exports: Geometry.InBand, Grid.freeCells, Grid.nextFree?_eq_some_iff, Grid.nextFree?_eq_none_iff,
  Grid.nextFree?_isSome_iff
-/
import Mathlib.Order.Bounds.Basic
import DashletBoard.Grid
import DashletBoard.Proofs.PositionOrder

namespace DashletBoard

/-!
### Searches

A search through a part of the grid finds the least of the cells that are looked for there, or nothing
if there are none.  Searching one part after another that lies behind it is searching both.
-/

/-- What is found is the least cell of a set, or nothing because the set is empty. -/
def IsFirst (cells : Set Position) : Option Position → Prop
  | some p => IsLeast cells p
  | none => cells = ∅

namespace IsFirst

variable {cells early late : Set Position} {found other : Option Position} {p : Position}

theorem eq_some_iff (first : IsFirst cells found) : found = some p ↔ IsLeast cells p := by
  cases found with
  | none =>
      have empty : cells = ∅ := first
      constructor
      · intro absent
        cases absent
      · intro least
        rw [empty] at least
        cases least.1
  | some q =>
      have least : IsLeast cells q := first
      constructor
      · intro same
        rwa [← Option.some.inj same]
      · intro other
        rw [least.unique other]

theorem eq_none_iff (first : IsFirst cells found) : found = none ↔ cells = ∅ := by
  cases found with
  | none => exact ⟨fun _ => first, fun _ => rfl⟩
  | some q =>
      have least : IsLeast cells q := first
      constructor
      · intro absent
        cases absent
      · intro empty
        rw [empty] at least
        cases least.1

/-- If nothing is found in one part, the search goes on in a part behind it. -/
theorem union (first : IsFirst early found) (second : IsFirst late other)
    (behind : ∀ p ∈ early, ∀ q ∈ late, p ≤ q) : IsFirst (early ∪ late) (found.or other) := by
  cases found with
  | none =>
      have empty : early = ∅ := first
      rw [empty, Set.empty_union, Option.none_or]
      exact second
  | some p =>
      have least : IsLeast early p := first
      rw [Option.some_or]
      constructor
      · exact .inl least.1
      · intro q member
        rcases member with inEarly | inLate
        · exact least.2 inEarly
        · exact behind p least.1 q inLate

end IsFirst

/-!
### Words at their upper end
-/

theorem toNat_cappedSum (a b : UInt32) :
    (cappedSum a b).toNat = min (a.toNat + b.toNat) (UInt32.size - 1) := by
  have small : min (a.toNat + b.toNat) (UInt32.size - 1) < UInt32.size := by
    simp only [UInt32.size]
    omega
  exact UInt32.toNat_ofNat_of_lt small

theorem toNat_next {a : UInt32} (fits : a.toNat + 1 < UInt32.size) :
    (a + 1).toNat = a.toNat + 1 := by
  rw [UInt32.toNat_add, UInt32.toNat_one]
  exact Nat.mod_eq_of_lt fits

namespace Geometry

variable {g : Geometry} {p : Position}

theorem toNat_lastColumn (g : Geometry) :
    g.lastColumn.toNat = min (g.origin.toNat + (max g.columns.toNat 1 - 1)) (UInt32.size - 1) := by
  have more : (max g.columns 1 - 1).toNat = max g.columns.toNat 1 - 1 := by
    have either : max g.columns 1 = if g.columns ≤ 1 then 1 else g.columns := rfl
    rw [either]
    split
    next few =>
      rw [UInt32.le_iff_toNat_le, UInt32.toNat_one] at few
      rw [UInt32.sub_self, UInt32.toNat_zero]
      omega
    next many =>
      have columns : 1 < g.columns := UInt32.not_le.mp many
      rw [UInt32.toNat_sub_of_le _ _ (UInt32.le_of_lt columns), UInt32.toNat_one]
      rw [UInt32.lt_iff_toNat_lt, UInt32.toNat_one] at columns
      omega
  rw [lastColumn, toNat_cappedSum, more]

/-- A position is in the band: from the origin on in both directions, and in one of the columns that
are counted from the origin.  There is always at least one column. -/
def InBand (g : Geometry) (p : Position) : Prop :=
  g.origin ≤ p.row ∧ g.origin ≤ p.col ∧ p.col.toNat < g.origin.toNat + max g.columns.toNat 1

theorem inBand_iff : g.InBand p ↔ g.origin ≤ p.row ∧ g.origin ≤ p.col ∧ p.col ≤ g.lastColumn := by
  have bound := p.col.toNat_lt_size
  simp only [InBand, UInt32.le_iff_toNat_le, toNat_lastColumn]
  omega

end Geometry

namespace Grid

variable {grid : Grid} {p : Position} {row column : UInt32} {more : Nat}

/-- The cells of the band at which no widget is. -/
def freeCells (grid : Grid) : Set Position :=
  { p | grid.geometry.InBand p ∧ grid.isOccupied p = false }

theorem isOccupied_iff : grid.isOccupied p = true ↔ p ∈ grid.dashlets.map Dashlet.position := by
  simp [isOccupied, get?, List.find?_isSome]

/-!
### One row
-/

/-- The free cells of a row from a column on, through as many more columns as are given. -/
def freeInRow (grid : Grid) (row : UInt32) (more : Nat) (column : UInt32) : Set Position :=
  { p | p.row = row ∧ column ≤ p.col ∧ p.col.toNat ≤ column.toNat + more ∧
      grid.isOccupied p = false }

theorem isFirst_of_free (free : grid.isOccupied ⟨column, row⟩ = false) :
    IsFirst (grid.freeInRow row more column) (some ⟨column, row⟩) := by
  constructor
  · exact ⟨rfl, UInt32.le_refl _, Nat.le_add_right _ _, free⟩
  · intro q cell
    rcases cell with ⟨rfl, after, -, -⟩
    exact Position.le_of_row_eq rfl after

/-- A cell that is taken can be left out of the search. -/
theorem freeInRow_succ (taken : grid.isOccupied ⟨column, row⟩ = true)
    (fits : column.toNat + (more + 1) < UInt32.size) :
    grid.freeInRow row (more + 1) column = grid.freeInRow row more (column + 1) := by
  have next : (column + 1).toNat = column.toNat + 1 := toNat_next (by omega)
  ext p
  simp only [freeInRow, Set.mem_ofPred_eq, UInt32.le_iff_toNat_le, next]
  constructor
  · intro cell
    rcases cell with ⟨same, after, before, free⟩
    have moved : column.toNat ≠ p.col.toNat := by
      intro here
      rw [← same, UInt32.toNat_inj.mp here, free] at taken
      cases taken
    exact ⟨same, by omega, by omega, free⟩
  · intro cell
    rcases cell with ⟨same, after, before, free⟩
    exact ⟨same, by omega, by omega, free⟩

theorem freeInRow?_isFirst (fits : column.toNat + more < UInt32.size) :
    IsFirst (grid.freeInRow row more column) (grid.freeInRow? row more column) := by
  induction more generalizing column with
  | zero =>
      rw [freeInRow?]
      split
      next taken =>
        ext p
        simp only [freeInRow, Set.mem_ofPred_eq, UInt32.le_iff_toNat_le, Set.mem_empty_iff_false,
          iff_false]
        intro cell
        rcases cell with ⟨same, after, before, free⟩
        have here : column = p.col := UInt32.toNat_inj.mp (by omega)
        rw [← same, here, free] at taken
        cases taken
      next free => exact isFirst_of_free (Bool.eq_false_iff.mpr free)
  | succ more ih =>
      rw [freeInRow?]
      split
      next taken =>
        rw [freeInRow_succ taken fits]
        apply ih
        rw [toNat_next (by omega)]
        omega
      next free => exact isFirst_of_free (Bool.eq_false_iff.mpr free)

/-!
### All rows
-/

/-- The free cells of the band in a row. -/
def freeInBandRow (grid : Grid) (row : UInt32) : Set Position :=
  { p | p ∈ grid.freeCells ∧ p.row = row }

/-- The free cells of the band from a row on. -/
def freeFromRow (grid : Grid) (row : UInt32) : Set Position :=
  { p | p ∈ grid.freeCells ∧ row ≤ p.row }

theorem freeInBandRow_eq (below : grid.geometry.origin ≤ row) :
    grid.freeInBandRow row = grid.freeInRow row
      (grid.geometry.lastColumn.toNat - grid.geometry.origin.toNat) grid.geometry.origin := by
  have columns := grid.geometry.toNat_lastColumn
  have bound := grid.geometry.origin.toNat_lt_size
  ext p
  simp only [freeInBandRow, freeCells, freeInRow, Geometry.inBand_iff, Set.mem_ofPred_eq,
    UInt32.le_iff_toNat_le] at *
  constructor
  · intro cell
    rcases cell with ⟨⟨⟨-, left, right⟩, free⟩, same⟩
    exact ⟨same, left, by omega, free⟩
  · intro cell
    rcases cell with ⟨rfl, left, right, free⟩
    exact ⟨⟨⟨below, left, by omega⟩, free⟩, rfl⟩

theorem freeInBandRow?_isFirst (below : grid.geometry.origin ≤ row) :
    IsFirst (grid.freeInBandRow row) (grid.freeInBandRow? row) := by
  have last := grid.geometry.lastColumn.toNat_lt_size
  rw [freeInBandRow_eq below]
  apply freeInRow?_isFirst
  have bound := grid.geometry.origin.toNat_lt_size
  omega

theorem freeFromRow_last (last : row.toNat = UInt32.size - 1) :
    grid.freeFromRow row = grid.freeInBandRow row := by
  ext p
  have bound := p.row.toNat_lt_size
  simp only [freeFromRow, freeInBandRow, Set.mem_ofPred_eq, UInt32.le_iff_toNat_le,
    ← UInt32.toNat_inj]
  constructor
  · intro cell
    exact ⟨cell.1, by omega⟩
  · intro cell
    exact ⟨cell.1, by omega⟩

theorem freeFromRow_next {next : UInt32} (succeeds : next.toNat = row.toNat + 1) :
    grid.freeFromRow row = grid.freeInBandRow row ∪ grid.freeFromRow next := by
  ext p
  simp only [freeFromRow, freeInBandRow, Set.mem_ofPred_eq, Set.mem_union, UInt32.le_iff_toNat_le,
    succeeds, ← UInt32.toNat_inj]
  constructor
  · intro cell
    rcases cell with ⟨free, after⟩
    rcases Nat.eq_or_lt_of_le after with same | later
    · exact .inl ⟨free, same.symm⟩
    · exact .inr ⟨free, later⟩
  · intro cell
    rcases cell with ⟨free, same⟩ | ⟨free, later⟩
    · exact ⟨free, by omega⟩
    · exact ⟨free, by omega⟩

theorem freeFromRow?_succ : grid.freeFromRow? (more + 1) row =
    (grid.freeInBandRow? row).or (grid.freeFromRow? more (cappedSum row 1)) := by
  rw [freeFromRow?]
  cases grid.freeInBandRow? row with
  | none => rfl
  | some free => rfl

/-- The induction is on the rows that are left up to the greatest word, which is the last one: before it
the next row is the row above by one, so that nothing is passed over. -/
theorem freeFromRow?_isFirst (below : grid.geometry.origin ≤ row)
    (rows : row.toNat + more = UInt32.size - 1) :
    IsFirst (grid.freeFromRow row) (grid.freeFromRow? more row) := by
  induction more generalizing row with
  | zero =>
      rw [freeFromRow_last (by omega)]
      exact freeInBandRow?_isFirst below
  | succ more ih =>
      have next : (cappedSum row 1).toNat = row.toNat + 1 := by
        rw [toNat_cappedSum, UInt32.toNat_one]
        omega
      have here := freeInBandRow?_isFirst below
      have there : IsFirst (grid.freeFromRow (cappedSum row 1))
          (grid.freeFromRow? more (cappedSum row 1)) := by
        rw [UInt32.le_iff_toNat_le] at below
        apply ih
        · rw [UInt32.le_iff_toNat_le]
          omega
        · omega
      rw [freeFromRow_next next, freeFromRow?_succ]
      apply here.union there
      intro p first q second
      apply le_of_lt
      apply Position.lt_of_row_lt
      have later := UInt32.le_iff_toNat_le.mp second.2
      rw [UInt32.lt_iff_toNat_lt, first.2]
      omega

theorem nextFree?_isFirst (grid : Grid) : IsFirst grid.freeCells grid.nextFree? := by
  have all : grid.freeCells = grid.freeFromRow grid.geometry.origin := by
    ext p
    exact ⟨fun free => ⟨free, free.1.1⟩, fun free => free.1⟩
  have bound := grid.geometry.origin.toNat_lt_size
  rw [all]
  apply freeFromRow?_isFirst (UInt32.le_refl _)
  omega

/-- The search finds the least free cell of the band in row-major order. -/
theorem nextFree?_eq_some_iff : grid.nextFree? = some p ↔ IsLeast grid.freeCells p :=
  grid.nextFree?_isFirst.eq_some_iff

/-- The search has no end exactly when every cell of the band is taken. -/
theorem nextFree?_eq_none_iff : grid.nextFree? = none ↔ grid.freeCells = ∅ :=
  grid.nextFree?_isFirst.eq_none_iff

theorem nextFree?_isSome_iff : grid.nextFree?.isSome ↔ grid.freeCells.Nonempty := by
  rw [Option.isSome_iff_ne_none, Ne, nextFree?_eq_none_iff, Set.nonempty_iff_ne_empty]

end Grid

end DashletBoard
