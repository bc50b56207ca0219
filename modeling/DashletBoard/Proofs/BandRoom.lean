/-
Module: DashletBoard.Proofs.BandRoom
Purpose: How many cells the band has, and that the search for a free one, row after row, comes to an end
  exactly while widgets leave room in it.
Main exports: Geometry.bandSize, Grid.inBand, Grid.Distinct.freeCells_nonempty_iff, Grid.Search,
  Grid.searchAfter, Grid.searchAfter_of_isLeast, Grid.searchAfter_of_full, Grid.search_ends_iff
-/
import Mathlib.Data.Finset.Prod
import Mathlib.Order.Interval.Finset.Nat
import DashletBoard.Proofs.GridPlacement

namespace DashletBoard

/-!
### The size of the band

The band is a rectangle of words.  Its cells are counted as pairs of natural numbers, so that the two
sides of the rectangle are intervals.
-/

namespace Position

/-- Column and row as natural numbers. -/
def coordinates (p : Position) : Nat × Nat := (p.col.toNat, p.row.toNat)

theorem coordinates_injective : Function.Injective coordinates := by
  intro p q same
  obtain ⟨cols, rows⟩ := Prod.mk.inj same
  cases p
  cases q
  rw [Position.mk.injEq]
  exact ⟨UInt32.toNat_inj.mp cols, UInt32.toNat_inj.mp rows⟩

end Position

namespace Geometry

variable {g : Geometry} {p : Position} {cell : Nat × Nat}

/-- How many columns the band has: those that are counted, as far as there are words for them. -/
def bandColumns (g : Geometry) : Nat := min (max g.columns.toNat 1) (UInt32.size - g.origin.toNat)

theorem bandColumns_pos (g : Geometry) : 0 < g.bandColumns := by
  have origin := g.origin.toNat_lt_size
  rw [bandColumns]
  omega

/-- How many rows the band has: all from the origin to the greatest word. -/
def bandRows (g : Geometry) : Nat := UInt32.size - g.origin.toNat

/-- How many cells the band has. -/
def bandSize (g : Geometry) : Nat := g.bandColumns * g.bandRows

/-- The coordinates of the cells of the band. -/
def band (g : Geometry) : Finset (Nat × Nat) :=
  Finset.Ico g.origin.toNat (g.origin.toNat + g.bandColumns) ×ˢ
    Finset.Ico g.origin.toNat (g.origin.toNat + g.bandRows)

theorem card_band : g.band.card = g.bandSize := by
  rw [band, bandSize, Finset.card_product, Nat.card_Ico, Nat.card_Ico, Nat.add_sub_cancel_left,
    Nat.add_sub_cancel_left]

instance : DecidablePred g.InBand := fun p =>
  inferInstanceAs (Decidable (g.origin ≤ p.row ∧ g.origin ≤ p.col ∧
    p.col.toNat < g.origin.toNat + max g.columns.toNat 1))

theorem coordinates_mem_band : p.coordinates ∈ g.band ↔ g.InBand p := by
  have col := p.col.toNat_lt_size
  have row := p.row.toNat_lt_size
  simp only [band, Position.coordinates, Finset.mem_product, Finset.mem_Ico, InBand, bandColumns,
    bandRows, UInt32.le_iff_toNat_le]
  omega

/-- Every pair in the rectangle is a cell. -/
theorem exists_coordinates_eq (member : cell ∈ g.band) : ∃ p : Position, p.coordinates = cell := by
  rcases cell with ⟨col, row⟩
  have origin := g.origin.toNat_lt_size
  simp only [band, Finset.mem_product, Finset.mem_Ico, bandColumns, bandRows] at member
  have colFits : col < UInt32.size := by omega
  have rowFits : row < UInt32.size := by omega
  refine ⟨⟨UInt32.ofNat col, UInt32.ofNat row⟩, ?_⟩
  exact Prod.ext (UInt32.toNat_ofNat_of_lt colFits) (UInt32.toNat_ofNat_of_lt rowFits)

end Geometry

namespace Grid

variable {grid : Grid} {p : Position} {row : UInt32}

/-!
### Widgets in the band

Only widgets in the band take cells from the search.  Where positions are distinct, each of them takes
one.
-/

/-- The widgets in the band. -/
def inBand (grid : Grid) : List Dashlet :=
  grid.dashlets.filter fun d => grid.geometry.InBand d.position

/-- The coordinates of the cells of the band at which widgets are. -/
def takenCells (grid : Grid) : Finset (Nat × Nat) :=
  (grid.inBand.map fun d => d.position.coordinates).toFinset

theorem coordinates_mem_takenCells :
    p.coordinates ∈ grid.takenCells ↔ grid.geometry.InBand p ∧ grid.isOccupied p = true := by
  simp only [takenCells, inBand, List.mem_toFinset, List.mem_map, List.mem_filter, isOccupied_iff,
    decide_eq_true_eq]
  constructor
  · rintro ⟨d, ⟨member, inside⟩, same⟩
    obtain rfl := Position.coordinates_injective same
    exact ⟨inside, d, member, rfl⟩
  · rintro ⟨inside, d, member, rfl⟩
    exact ⟨d, ⟨member, inside⟩, rfl⟩

theorem takenCells_subset : grid.takenCells ⊆ grid.geometry.band := by
  intro cell taken
  simp only [takenCells, inBand, List.mem_toFinset, List.mem_map, List.mem_filter,
    decide_eq_true_eq] at taken
  obtain ⟨d, ⟨-, inside⟩, rfl⟩ := taken
  exact Geometry.coordinates_mem_band.mpr inside

theorem freeCells_eq_empty_iff : grid.freeCells = ∅ ↔ grid.takenCells = grid.geometry.band := by
  rw [Set.eq_empty_iff_forall_notMem]
  constructor
  · intro full
    apply takenCells_subset.antisymm
    intro cell member
    obtain ⟨p, rfl⟩ := Geometry.exists_coordinates_eq member
    have inside := Geometry.coordinates_mem_band.mp member
    refine coordinates_mem_takenCells.mpr ⟨inside, ?_⟩
    rw [← Bool.not_eq_false]
    exact fun free => full p ⟨inside, free⟩
  · intro full p free
    have member := Geometry.coordinates_mem_band.mpr free.1
    rw [← full, coordinates_mem_takenCells, free.2] at member
    exact Bool.false_ne_true member.2

/-- There is a free cell exactly if fewer cells are taken than the band has. -/
theorem freeCells_nonempty_iff_card :
    grid.freeCells.Nonempty ↔ grid.takenCells.card < grid.geometry.bandSize := by
  rw [Set.nonempty_iff_ne_empty, Ne, freeCells_eq_empty_iff, ← Geometry.card_band]
  constructor
  · intro room
    exact Finset.card_lt_card (takenCells_subset.ssubset_of_ne room)
  · intro fewer full
    rw [full] at fewer
    exact fewer.false

/-- No more cells are taken than there are widgets. -/
theorem card_takenCells_le : grid.takenCells.card ≤ grid.size := by
  have cells := List.toFinset_card_le (grid.inBand.map fun d => d.position.coordinates)
  rw [List.length_map] at cells
  exact cells.trans (List.length_filter_le _ _)

/-- As long as there are fewer widgets than the band has cells, one of the cells is free. -/
theorem freeCells_nonempty_of_size_lt (fewer : grid.size < grid.geometry.bandSize) :
    grid.freeCells.Nonempty :=
  freeCells_nonempty_iff_card.mpr (card_takenCells_le.trans_lt fewer)

/-- Where positions are distinct, there is a free cell exactly if the band has more cells than widgets. -/
theorem Distinct.freeCells_nonempty_iff (distinct : grid.Distinct) :
    grid.freeCells.Nonempty ↔ grid.inBand.length < grid.geometry.bandSize := by
  have positions : (grid.inBand.map Dashlet.position).Nodup :=
    distinct.sublist (List.filter_sublist.map _)
  have cells : (grid.inBand.map fun d => d.position.coordinates).Nodup := by
    have nodup := positions.map Position.coordinates_injective
    rwa [List.map_map] at nodup
  rw [freeCells_nonempty_iff_card, takenCells, List.toFinset_card_of_nodup cells, List.length_map]

/-!
### Searching row after row

The search itself knows no last row: after each row it goes on with the next one, which after the greatest
word is the same row again.  It ends only by finding a cell.
-/

/-- Where a search is: before a row, or at the cell that it has found. -/
inductive Search where
  | before (row : UInt32)
  | found (position : Position)
deriving Repr, DecidableEq

/-- Searches one more row, unless a cell is found already. -/
def searchRow (grid : Grid) : Search → Search
  | .found p => .found p
  | .before row =>
      match grid.freeInBandRow? row with
      | some p => .found p
      | none => .before (cappedSum row 1)

/-- Where the search for a free cell is after a count of rows. -/
def searchAfter (grid : Grid) (rows : Nat) : Search :=
  grid.searchRow^[rows] (.before grid.geometry.origin)

theorem searchAfter_succ (rows : Nat) :
    grid.searchAfter (rows + 1) = grid.searchRow (grid.searchAfter rows) :=
  Function.iterate_succ_apply' _ _ _

/-- A search that has found a cell stays there. -/
theorem searchAfter_add {rows : Nat} (found : grid.searchAfter rows = .found p) (more : Nat) :
    grid.searchAfter (rows + more) = .found p := by
  induction more with
  | zero => exact found
  | succ more ih => rw [← Nat.add_assoc, searchAfter_succ, ih, searchRow]

theorem searchRow_before (none : grid.freeInBandRow? row = none) :
    grid.searchRow (.before row) = .before (cappedSum row 1) := by
  rw [searchRow, none]

/-- While the rows above hold no free cell, the search comes to one row after the other. -/
theorem searchAfter_of_rows_full (rows : Nat)
    (inWords : grid.geometry.origin.toNat + rows < UInt32.size)
    (full : ∀ q ∈ grid.freeCells, grid.geometry.origin.toNat + rows ≤ q.row.toNat) :
    ∃ row, grid.searchAfter rows = .before row ∧
      row.toNat = grid.geometry.origin.toNat + rows := by
  induction rows with
  | zero => exact ⟨_, rfl, rfl⟩
  | succ rows ih =>
      obtain ⟨row, here, number⟩ := ih (by omega) fun q free => by
        have below := full q free
        omega
      have below : grid.geometry.origin ≤ row := by
        rw [UInt32.le_iff_toNat_le]
        omega
      have nothing : grid.freeInBandRow? row = none := by
        rw [(freeInBandRow?_isFirst below).eq_none_iff, Set.eq_empty_iff_forall_notMem]
        intro q free
        have after := full q free.1
        rw [free.2] at after
        omega
      refine ⟨cappedSum row 1, ?_, ?_⟩
      · rw [searchAfter_succ, here, searchRow_before nothing]
      · rw [toNat_cappedSum, UInt32.toNat_one]
        omega

/-- The search finds the least free cell, in its row. -/
theorem searchAfter_of_isLeast (least : IsLeast grid.freeCells p) :
    grid.searchAfter (p.row.toNat - grid.geometry.origin.toNat + 1) = .found p := by
  have below : grid.geometry.origin ≤ p.row := least.1.1.1
  have reach : grid.geometry.origin.toNat + (p.row.toNat - grid.geometry.origin.toNat) = p.row.toNat :=
    Nat.add_sub_cancel' (UInt32.le_iff_toNat_le.mp below)
  have notAbove : ∀ q ∈ grid.freeCells,
      grid.geometry.origin.toNat + (p.row.toNat - grid.geometry.origin.toNat) ≤ q.row.toNat := by
    intro q free
    rw [reach, ← Nat.not_lt, ← UInt32.lt_iff_toNat_lt]
    exact fun above => (least.2 free).not_gt (Position.lt_of_row_lt above)
  obtain ⟨row, here, same⟩ :=
    searchAfter_of_rows_full _ (reach.trans_lt p.row.toNat_lt_size) notAbove
  have last : row = p.row := UInt32.toNat_inj.mp (same.trans reach)
  have inRow : IsLeast (grid.freeInBandRow p.row) p :=
    ⟨⟨least.1, rfl⟩, fun q free => least.2 free.1⟩
  rw [searchAfter_succ, here, last, searchRow,
    (freeInBandRow?_isFirst below).eq_some_iff.mpr inRow]

/-- In a band without a free cell, every row leads to another one. -/
theorem searchAfter_of_full (full : grid.freeCells = ∅) (rows : Nat) :
    ∃ row, grid.searchAfter rows = .before row := by
  have onward : ∃ row, grid.geometry.origin ≤ row ∧ grid.searchAfter rows = .before row := by
    induction rows with
    | zero => exact ⟨_, UInt32.le_refl _, rfl⟩
    | succ rows ih =>
        obtain ⟨row, below, here⟩ := ih
        have nothing : grid.freeInBandRow? row = none := by
          rw [(freeInBandRow?_isFirst below).eq_none_iff, freeInBandRow, full]
          simp
        refine ⟨cappedSum row 1, ?_, ?_⟩
        · have bound := row.toNat_lt_size
          rw [UInt32.le_iff_toNat_le] at *
          rw [toNat_cappedSum]
          omega
        · rw [searchAfter_succ, here, searchRow_before nothing]
  obtain ⟨row, -, here⟩ := onward
  exact ⟨row, here⟩

/-- What the search finds, after however many rows, is the least free cell. -/
theorem isLeast_of_searchAfter {rows : Nat} (found : grid.searchAfter rows = .found p) :
    IsLeast grid.freeCells p := by
  rcases grid.freeCells.eq_empty_or_nonempty with full | room
  · obtain ⟨row, here⟩ := searchAfter_of_full full rows
    rw [here] at found
    cases found
  · obtain ⟨q, search⟩ := Option.isSome_iff_exists.mp (nextFree?_isSome_iff.mpr room)
    have least := nextFree?_eq_some_iff.mp search
    have there := searchAfter_add (searchAfter_of_isLeast least) rows
    rw [Nat.add_comm, searchAfter_add found] at there
    cases there
    exact least

/-- The search comes to an end exactly if there is a free cell. -/
theorem search_ends_iff : (∃ rows p, grid.searchAfter rows = .found p) ↔ grid.freeCells.Nonempty := by
  constructor
  · intro ends
    obtain ⟨rows, p, found⟩ := ends
    exact ⟨p, (isLeast_of_searchAfter found).1⟩
  · intro room
    obtain ⟨p, search⟩ := Option.isSome_iff_exists.mp (nextFree?_isSome_iff.mpr room)
    exact ⟨_, p, searchAfter_of_isLeast (nextFree?_eq_some_iff.mp search)⟩

/-!
### How far a search goes

Every row that is passed over has a widget in each of its cells.
-/

/-- All cells of the rows above the least free cell are taken. -/
theorem rows_mul_bandColumns_le_size (least : IsLeast grid.freeCells p) :
    (p.row.toNat - grid.geometry.origin.toNat) * grid.geometry.bandColumns ≤ grid.size := by
  have bound := p.row.toNat_lt_size
  let above := Finset.Ico grid.geometry.origin.toNat
      (grid.geometry.origin.toNat + grid.geometry.bandColumns) ×ˢ
    Finset.Ico grid.geometry.origin.toNat p.row.toNat
  have count : above.card =
      (p.row.toNat - grid.geometry.origin.toNat) * grid.geometry.bandColumns := by
    rw [Finset.card_product, Nat.card_Ico, Nat.card_Ico, Nat.add_sub_cancel_left, Nat.mul_comm]
  have taken : above ⊆ grid.takenCells := by
    intro cell member
    simp only [above, Finset.mem_product, Finset.mem_Ico] at member
    have inBand : cell ∈ grid.geometry.band := by
      simp only [Geometry.band, Geometry.bandRows, Finset.mem_product, Finset.mem_Ico]
      omega
    obtain ⟨q, rfl⟩ := Geometry.exists_coordinates_eq inBand
    have inside := Geometry.coordinates_mem_band.mp inBand
    refine coordinates_mem_takenCells.mpr ⟨inside, ?_⟩
    rw [← Bool.not_eq_false]
    intro free
    have earlier : q < p := Position.lt_of_row_lt (UInt32.lt_iff_toNat_lt.mpr member.2.2)
    exact (least.2 ⟨inside, free⟩).not_gt earlier
  rw [← count]
  exact (Finset.card_le_card taken).trans card_takenCells_le

/-- There are at least as many widgets as rows above the least free cell. -/
theorem rows_le_size (least : IsLeast grid.freeCells p) :
    p.row.toNat - grid.geometry.origin.toNat ≤ grid.size :=
  (Nat.le_mul_of_pos_right _ grid.geometry.bandColumns_pos).trans
    (rows_mul_bandColumns_le_size least)

/-- A search that ends has searched at most one row more than there are widgets. -/
theorem searchAfter_size {rows : Nat} (found : grid.searchAfter rows = .found p) :
    grid.searchAfter (grid.size + 1) = .found p := by
  have least := isLeast_of_searchAfter found
  have short := rows_le_size least
  have there := searchAfter_add (searchAfter_of_isLeast least)
    (grid.size - (p.row.toNat - grid.geometry.origin.toNat))
  rwa [Nat.add_right_comm, Nat.add_sub_cancel' short] at there

end Grid

end DashletBoard
