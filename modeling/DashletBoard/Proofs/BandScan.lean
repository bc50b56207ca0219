/-
Module: DashletBoard.Proofs.BandScan
Purpose: The search for a free cell goes through the cells of the band one after the other, in numbers that
  no word cuts off, and finds the least free one no lower than widgets could fill whole rows.
Main exports: Geometry.bandCells, Geometry.coordinates_bandCells, Grid.nextFree?_eq_find?,
  Grid.nextFree?_eq_of_band, Grid.search_finds_least_cell_of_band
-/
import DashletBoard.Proofs.BandRoom

namespace DashletBoard

namespace Geometry

/-!
### The cells of the band in row-major order

The cells are listed by natural numbers, which have no greatest one.  That the numbers of each listed cell
are those it was listed by is what shows that no word on the way is too great.
-/

/-- The cells of a row that are in the band, from the first column on. -/
def rowCells (g : Geometry) (row : UInt32) : List Position :=
  (List.range' g.origin.toNat g.bandColumns).map fun column => ⟨UInt32.ofNat column, row⟩

/-- The cells of the band, row after row. -/
def bandCells (g : Geometry) : List Position :=
  (List.range' g.origin.toNat g.bandRows).flatMap fun row => g.rowCells (UInt32.ofNat row)

variable {g : Geometry} {column row : Nat}

theorem lt_size_of_mem_columns (member : column ∈ List.range' g.origin.toNat g.bandColumns) :
    column < UInt32.size := by
  have origin := g.origin.toNat_lt_size
  rw [List.mem_range'_1, bandColumns] at member
  omega

theorem lt_size_of_mem_rows (member : row ∈ List.range' g.origin.toNat g.bandRows) :
    row < UInt32.size := by
  have origin := g.origin.toNat_lt_size
  rw [List.mem_range'_1, bandRows] at member
  omega

theorem coordinates_rowCells (row : UInt32) :
    (g.rowCells row).map Position.coordinates =
      (List.range' g.origin.toNat g.bandColumns).map fun column => (column, row.toNat) := by
  rw [rowCells, List.map_map]
  apply List.map_congr_left
  intro column member
  exact Prod.ext (UInt32.toNat_ofNat_of_lt (lt_size_of_mem_columns member)) rfl

/-- The cells have the numbers by which they are listed. -/
theorem coordinates_bandCells (g : Geometry) :
    g.bandCells.map Position.coordinates =
      (List.range' g.origin.toNat g.bandRows).flatMap fun row =>
        (List.range' g.origin.toNat g.bandColumns).map fun column => (column, row) := by
  rw [bandCells, List.map_flatMap]
  apply List.flatMap_congr
  intro row member
  have same : (UInt32.ofNat row).toNat = row := UInt32.toNat_ofNat_of_lt (lt_size_of_mem_rows member)
  rw [coordinates_rowCells, same]

end Geometry

namespace Grid

variable {grid other : Grid} {p : Position} {row column : UInt32} {more : Nat}

/-!
### The search as a walk through these cells
-/

theorem freeInRow?_eq_find? (fits : column.toNat + more < UInt32.size) :
    grid.freeInRow? row more column =
      ((List.range' column.toNat (more + 1)).map fun column => ⟨UInt32.ofNat column, row⟩).find?
        fun p => !grid.isOccupied p := by
  induction more generalizing column with
  | zero =>
      rw [freeInRow?, List.range'_one, List.map_singleton, UInt32.ofNat_toNat]
      cases occupied : grid.isOccupied ⟨column, row⟩ with
      | true => rw [if_pos rfl, List.find?_singleton, occupied, Bool.not_true, if_neg Bool.false_ne_true]
      | false => rw [if_neg Bool.false_ne_true, List.find?_singleton, occupied, Bool.not_false, if_pos rfl]
  | succ more ih =>
      have next : (column + 1).toNat = column.toNat + 1 := toNat_next (by omega)
      rw [freeInRow?, List.range'_succ, List.map_cons, List.find?_cons, UInt32.ofNat_toNat]
      cases occupied : grid.isOccupied ⟨column, row⟩ with
      | true => rw [if_pos rfl, ih (by omega), next, Bool.not_true]
      | false => rw [if_neg Bool.false_ne_true, Bool.not_false]

theorem freeInBandRow?_eq_find? (grid : Grid) (row : UInt32) :
    grid.freeInBandRow? row = (grid.geometry.rowCells row).find? fun p => !grid.isOccupied p := by
  have last := grid.geometry.toNat_lastColumn
  have bound := grid.geometry.lastColumn.toNat_lt_size
  have origin := grid.geometry.origin.toNat_lt_size
  have columns : grid.geometry.bandColumns =
      grid.geometry.lastColumn.toNat - grid.geometry.origin.toNat + 1 := by
    rw [Geometry.bandColumns]
    omega
  rw [freeInBandRow?, Geometry.rowCells, columns]
  exact freeInRow?_eq_find? (by omega)

/-- The induction is on the rows that are left, as in the search itself. -/
theorem freeFromRow?_eq_find? (rows : row.toNat + more < UInt32.size) :
    grid.freeFromRow? more row =
      ((List.range' row.toNat (more + 1)).flatMap fun row =>
        grid.geometry.rowCells (UInt32.ofNat row)).find? fun p => !grid.isOccupied p := by
  induction more generalizing row with
  | zero =>
      rw [freeFromRow?, freeInBandRow?_eq_find?, List.range'_one, List.flatMap_singleton,
        UInt32.ofNat_toNat]
  | succ more ih =>
      have next : (cappedSum row 1).toNat = row.toNat + 1 := by
        rw [toNat_cappedSum, UInt32.toNat_one]
        omega
      rw [freeFromRow?_succ, freeInBandRow?_eq_find?, ih (by omega), next, List.range'_succ (n := more + 1),
        List.flatMap_cons, List.find?_append, UInt32.ofNat_toNat]

/-- What is found is the first free one of the cells of the band. -/
theorem nextFree?_eq_find? (grid : Grid) :
    grid.nextFree? = grid.geometry.bandCells.find? fun p => !grid.isOccupied p := by
  have origin := grid.geometry.origin.toNat_lt_size
  have rows : grid.geometry.bandRows = UInt32.size - 1 - grid.geometry.origin.toNat + 1 := by
    rw [Geometry.bandRows]
    omega
  rw [nextFree?, Geometry.bandCells, rows]
  exact freeFromRow?_eq_find? (by omega)

/-!
### What has no influence
-/

/-- Grids that are taken alike in the band are searched alike. -/
theorem nextFree?_eq_of_band (geometry : other.geometry = grid.geometry)
    (alike : ∀ p, grid.geometry.InBand p → other.isOccupied p = grid.isOccupied p) :
    other.nextFree? = grid.nextFree? := by
  have cells : other.freeCells = grid.freeCells := by
    ext p
    simp only [freeCells, Set.mem_ofPred_eq, geometry]
    constructor
    · rintro ⟨inside, free⟩
      exact ⟨inside, (alike p inside).symm.trans free⟩
    · rintro ⟨inside, free⟩
      exact ⟨inside, (alike p inside).trans free⟩
  cases search : grid.nextFree? with
  | none => rwa [nextFree?_eq_none_iff, cells, ← nextFree?_eq_none_iff]
  | some p => rwa [nextFree?_eq_some_iff, cells, ← nextFree?_eq_some_iff]

/-- The search goes through the cells of the band, row after row and every row from its first column on, and
the numbers of columns and rows never begin anew on the way.  If one of these cells is free, the least of
them is found, below no more rows than the widgets fill.  Only what is taken in the band counts. -/
theorem search_finds_least_cell_of_band (grid : Grid) :
    (grid.freeCells.Nonempty →
      ∃ p, grid.nextFree? = some p ∧ IsLeast grid.freeCells p ∧
        p.row.toNat ≤ grid.geometry.origin.toNat + grid.size / grid.geometry.bandColumns) ∧
    (grid.nextFree? = grid.geometry.bandCells.find? (fun p => !grid.isOccupied p) ∧
      grid.geometry.bandCells.map Position.coordinates =
        (List.range' grid.geometry.origin.toNat grid.geometry.bandRows).flatMap fun row =>
          (List.range' grid.geometry.origin.toNat grid.geometry.bandColumns).map fun column =>
            (column, row)) ∧
    ∀ other : Grid, other.geometry = grid.geometry →
      (∀ p, grid.geometry.InBand p → other.isOccupied p = grid.isOccupied p) →
      other.nextFree? = grid.nextFree? := by
  refine ⟨fun room => ?_, ⟨grid.nextFree?_eq_find?, grid.geometry.coordinates_bandCells⟩,
    fun other geometry alike => nextFree?_eq_of_band geometry alike⟩
  obtain ⟨p, search⟩ := Option.isSome_iff_exists.mp (nextFree?_isSome_iff.mpr room)
  have least := nextFree?_eq_some_iff.mp search
  have filled : p.row.toNat - grid.geometry.origin.toNat ≤
      grid.size / grid.geometry.bandColumns :=
    (Nat.le_div_iff_mul_le grid.geometry.bandColumns_pos).mpr (rows_mul_bandColumns_le_size least)
  exact ⟨p, search, least, by omega⟩

/-- A grid in the last two rows and columns of words, of which the upper row is full; a widget stands outside
the band. -/
def lastRows : Grid where
  dashboard := "t1"
  geometry := { columns := 4294967295, origin := 4294967294 }
  dashlets :=
    [{ Dashlet.overview "t1" with position := ⟨4294967295, 4294967294⟩ },
      { Dashlet.measurement "t1" "Host Health" "cpu" with position := ⟨1, 1⟩ },
      { Dashlet.measurement "t1" "Host Health" "mem" with position := ⟨4294967294, 4294967294⟩ }]

theorem search_finds_least_cell_of_band_last_rows :
    lastRows.freeCells.Nonempty ∧
      (∃ p, lastRows.nextFree? = some p ∧ IsLeast lastRows.freeCells p ∧
        p.row.toNat ≤ 4294967294 + 3 / 2) ∧
      ({ lastRows with dashlets := lastRows.dashlets.eraseIdx 1 } : Grid).nextFree? =
        lastRows.nextFree? := by
  have free : (⟨4294967294, 4294967295⟩ : Position) ∈ lastRows.freeCells := ⟨by decide, by decide⟩
  obtain ⟨found, -, outside⟩ := search_finds_least_cell_of_band lastRows
  refine ⟨⟨_, free⟩, found ⟨_, free⟩, outside _ rfl ?_⟩
  intro p inside
  have away : (⟨1, 1⟩ : Position) ≠ p := by
    rintro rfl
    exact absurd inside (by decide)
  simp [isOccupied, get?, lastRows, Dashlet.measurement, Dashlet.overview, List.find?_cons, away]

end Grid

end DashletBoard
