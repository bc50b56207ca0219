/-
Module: DashletBoard.Proofs.ContestedCells
Purpose: Which cells are taken after records were loaded, and when a record that shares its cell with no
  other one has to move all the same: the cell was given to a record that had to move before.
Main exports: cellsOf, Geometry.openBefore, Tab.surplus, Tab.Filled, Tab.Filled.settleAll?,
  Tab.Filled.mem_iff, Tab.Filled.place, Tab.unshared_cells_are_kept_iff, Tab.unshared_cell_is_lost
-/
import Mathlib.Data.Set.Card
import DashletBoard.Proofs.BandRoom
import DashletBoard.Proofs.LoadedRecords

namespace DashletBoard

/-!
### Cells of records
-/

/-- The cells at which records are stored. -/
def cellsOf (records : List Dashlet) : Finset Position := (records.map Dashlet.position).toFinset

theorem mem_cellsOf {records : List Dashlet} {p : Position} :
    p ∈ cellsOf records ↔ ∃ d ∈ records, d.position = p := by
  rw [cellsOf, List.mem_toFinset, List.mem_map]

theorem cellsOf_append_singleton (records : List Dashlet) (d : Dashlet) :
    cellsOf (records ++ [d]) = insert d.position (cellsOf records) := by
  ext p
  simp only [mem_cellsOf, List.mem_append, List.mem_singleton, Finset.mem_insert]
  constructor
  · rintro ⟨other, old | rfl, rfl⟩
    · exact .inr ⟨other, old, rfl⟩
    · exact .inl rfl
  · rintro (rfl | ⟨other, old, rfl⟩)
    · exact ⟨d, .inr rfl, rfl⟩
    · exact ⟨other, .inl old, rfl⟩

theorem Grid.isOccupied_iff_mem_cellsOf {grid : Grid} {p : Position} :
    grid.isOccupied p = true ↔ p ∈ cellsOf grid.dashlets := by
  rw [isOccupied_iff, cellsOf, List.mem_toFinset]

theorem cellsOf_placed (grid : Grid) (d : Dashlet) :
    cellsOf (grid.placed d).dashlets = insert d.position (cellsOf grid.dashlets) :=
  cellsOf_append_singleton grid.dashlets d

/-- The cells of the band before a position at which none of the records is stored. -/
def Geometry.openBefore (g : Geometry) (records : List Dashlet) (p : Position) : Set Position :=
  { q | g.InBand q ∧ q < p ∧ q ∉ cellsOf records }

theorem Geometry.finite_openBefore (g : Geometry) (records : List Dashlet) (p : Position) :
    (g.openBefore records p).Finite := by
  apply (g.band.finite_toSet.preimage Position.coordinates_injective.injOn).subset
  intro q cell
  exact coordinates_mem_band.mpr cell.1

/-- Two records of one tab at a cell, a third one two cells further on, and one of another tab there. -/
def Memory.spaced : Memory where
  records :=
    [(Dashlet.overview "t1").moved ⟨1, 1⟩,
      (Dashlet.measurement "t1" "Host Health" "cpu").moved ⟨1, 1⟩,
      (Dashlet.overview "t2").moved ⟨3, 1⟩,
      (Dashlet.measurement "t1" "Host Health" "mem").moved ⟨3, 1⟩]

namespace Tab

variable {geometry : Geometry} {grid after : Grid} {record : Dashlet} {records rest : List Dashlet}
  {taken : Finset Position} {p : Position}

/-- How many records are stored at a cell at which an earlier one is stored, too. -/
def surplus (records : List Dashlet) : Nat := records.length - (cellsOf records).card

/-!
### What is taken after records were placed

Every cell at which a record is stored is taken then, by this record or by another one.  Any other cell that
is taken was the first free one of the band at its time, so that no gaps are left before it.  As every record
takes one cell, the number of these other cells is known, and so the cells are: the order of the records
does not matter.
-/

/-- What the cells that are taken after records were placed on an empty grid have to do with the cells at
which the records are stored. -/
structure Filled (geometry : Geometry) (records : List Dashlet) (taken : Finset Position) : Prop where
  stored : cellsOf records ⊆ taken
  inBand : ∀ p ∈ taken, p ∉ cellsOf records → geometry.InBand p
  noGaps : ∀ p ∈ taken, p ∉ cellsOf records → ∀ q, geometry.InBand q → q < p → q ∈ taken
  count : taken.card = records.length

theorem Filled.nothing (geometry : Geometry) : Filled geometry [] ∅ :=
  ⟨Finset.Subset.refl _, fun _ member => absurd member (Finset.notMem_empty _),
    fun _ member => absurd member (Finset.notMem_empty _), rfl⟩

/-- A record takes its own cell. -/
theorem Filled.own (filled : Filled geometry records taken) (free : record.position ∉ taken) :
    Filled geometry (records ++ [record]) (insert record.position taken) := by
  have old {p : Position} (member : p ∈ insert record.position taken)
      (other : p ∉ insert record.position (cellsOf records)) : p ∈ taken ∧ p ∉ cellsOf records := by
    rw [Finset.mem_insert, not_or] at other
    exact ⟨(Finset.mem_insert.mp member).resolve_left other.1, other.2⟩
  constructor
  · rw [cellsOf_append_singleton]
    exact Finset.insert_subset_insert _ filled.stored
  · intro p member other
    rw [cellsOf_append_singleton] at other
    obtain ⟨before, elsewhere⟩ := old member other
    exact filled.inBand p before elsewhere
  · intro p member other q inside less
    rw [cellsOf_append_singleton] at other
    obtain ⟨before, elsewhere⟩ := old member other
    exact Finset.mem_insert_of_mem (filled.noGaps p before elsewhere q inside less)
  · rw [Finset.card_insert_of_notMem free, filled.count, List.length_append, List.length_singleton]

/-- A record whose cell is taken takes the first free one. -/
theorem Filled.moved (filled : Filled geometry records taken) (lost : record.position ∈ taken)
    (least : IsLeast { q | geometry.InBand q ∧ q ∉ taken } p) :
    Filled geometry (records ++ [record]) (insert p taken) := by
  constructor
  · rw [cellsOf_append_singleton]
    exact Finset.insert_subset (Finset.mem_insert_of_mem lost)
      (filled.stored.trans (Finset.subset_insert p taken))
  · intro q member other
    rw [cellsOf_append_singleton, Finset.mem_insert, not_or] at other
    rcases Finset.mem_insert.mp member with rfl | before
    · exact least.1.1
    · exact filled.inBand q before other.2
  · intro q member other r inside less
    rw [cellsOf_append_singleton, Finset.mem_insert, not_or] at other
    rcases Finset.mem_insert.mp member with rfl | before
    · by_contra gap
      rw [Finset.mem_insert, not_or] at gap
      exact (least.2 ⟨inside, gap.2⟩).not_gt less
    · exact Finset.mem_insert_of_mem (filled.noGaps q before other.2 r inside less)
  · rw [Finset.card_insert_of_notMem least.1.2, filled.count, List.length_append,
      List.length_singleton]

theorem freeCells_eq (grid : Grid) :
    grid.freeCells = { q | grid.geometry.InBand q ∧ q ∉ cellsOf grid.dashlets } := by
  ext q
  rw [Grid.freeCells, Set.mem_ofPred_eq, Set.mem_ofPred_eq, ← Grid.isOccupied_iff_mem_cellsOf,
    Bool.not_eq_true]

/-- Placing one more record. -/
theorem Filled.settle? (filled : Filled grid.geometry records (cellsOf grid.dashlets))
    (settled : settle? grid record = some after) :
    Filled after.geometry (records ++ [record]) (cellsOf after.dashlets) := by
  rcases settle?_cases settled with ⟨free, rfl⟩ | ⟨lost, p, least, rfl⟩
  · rw [cellsOf_placed]
    apply filled.own
    rw [← Grid.isOccupied_iff_mem_cellsOf, free]
    exact Bool.false_ne_true
  · rw [cellsOf_placed, Dashlet.position_moved]
    apply filled.moved (Grid.isOccupied_iff_mem_cellsOf.mp lost)
    rwa [freeCells_eq] at least

/-- Placing all records, one after the other. -/
theorem Filled.settleAll? (filled : Filled grid.geometry records (cellsOf grid.dashlets))
    (settled : settleAll? grid rest = some after) :
    Filled after.geometry (records ++ rest) (cellsOf after.dashlets) := by
  induction rest generalizing grid records with
  | nil =>
      obtain rfl := Option.some.inj settled
      rwa [List.append_nil]
  | cons record rest ih =>
      rw [Tab.settleAll?] at settled
      cases first : Tab.settle? grid record with
      | none =>
          rw [first] at settled
          cases settled
      | some next =>
          rw [first] at settled
          rw [List.append_cons]
          exact ih (filled.settle? first) settled

/-- A cell at which no record is stored is taken exactly if it is in the band and fewer such cells are before
it than there are surplus records. -/
theorem Filled.mem_iff (filled : Filled geometry records taken) (unstored : p ∉ cellsOf records) :
    p ∈ taken ↔ geometry.InBand p ∧ (geometry.openBefore records p).ncard < surplus records := by
  have moved : (taken \ cellsOf records).card = surplus records := by
    rw [Finset.card_sdiff_of_subset filled.stored, filled.count, surplus]
  rw [← moved, ← Set.ncard_coe_finset]
  constructor
  · intro member
    refine ⟨filled.inBand p member unstored, ?_⟩
    apply Set.ncard_lt_ncard _ (Finset.finite_toSet _)
    refine (Set.ssubset_iff_of_subset ?_).mpr ⟨p, by simp [member, unstored], fun before => ?_⟩
    · intro q before
      have filledIn := filled.noGaps p member unstored q before.1 before.2.1
      exact Finset.mem_coe.mpr (Finset.mem_sdiff.mpr ⟨filledIn, before.2.2⟩)
    · exact lt_irrefl p before.2.1
  · rintro ⟨inside, fewer⟩
    by_contra free
    apply fewer.not_ge
    apply Set.ncard_le_ncard _ (geometry.finite_openBefore records p)
    intro q member
    obtain ⟨taken, elsewhere⟩ := Finset.mem_sdiff.mp (Finset.mem_coe.mp member)
    refine ⟨filled.inBand q taken elsewhere, ?_, elsewhere⟩
    rcases lt_trichotomy q p with before | rfl | behind
    · exact before
    · exact absurd taken free
    · exact absurd (filled.noGaps q taken elsewhere p inside behind) free

/-!
### Loading
-/

theorem settleAll?_append (grid : Grid) (records rest : List Dashlet) :
    settleAll? grid (records ++ rest) =
      (settleAll? grid records).bind fun middle => settleAll? middle rest := by
  induction records generalizing grid with
  | nil => rfl
  | cons record records ih =>
      rw [List.cons_append, Tab.settleAll?, Tab.settleAll?]
      cases Tab.settle? grid record with
      | none => rfl
      | some next => exact ih next

/-- The widget of a record is at the place that the record has among all records. -/
theorem getElem?_of_settleAll? {middle : Grid} {d : Dashlet} (empty : grid.dashlets = [])
    (before : settleAll? grid records = some middle)
    (later : settleAll? (middle.placed d) rest = some after) :
    after.dashlets[records.length]? = some d := by
  obtain ⟨others, dashlets, contents⟩ := (settleAll?_eq_some before).placed
  obtain ⟨more, all, -⟩ := (settleAll?_eq_some later).placed
  have count := congrArg List.length contents
  rw [List.length_map, List.length_map] at count
  rw [all, Grid.placed, dashlets, empty, List.nil_append, List.append_assoc, ← count]
  simp

/-- A record at whose cell no earlier one is stored stays there, unless earlier ones have filled the band up
to this cell.  Then it goes to a cell behind it. -/
theorem Filled.place (filled : Filled grid.geometry records (cellsOf grid.dashlets))
    (settled : Tab.settle? grid record = some after)
    (unstored : record.position ∉ cellsOf records) :
    ∃ p, after = grid.placed (record.moved p) ∧
      (p = record.position ↔
        (grid.geometry.InBand record.position →
          surplus records ≤ (grid.geometry.openBefore records record.position).ncard)) ∧
      (p ≠ record.position → grid.geometry.InBand p ∧ record.position < p) := by
  have lost_iff := filled.mem_iff unstored
  rw [← Grid.isOccupied_iff_mem_cellsOf] at lost_iff
  rcases settle?_cases settled with ⟨free, rfl⟩ | ⟨lost, p, least, rfl⟩
  · have kept := mt lost_iff.mpr (Bool.eq_false_iff.mp free)
    rw [not_and, Nat.not_lt] at kept
    exact ⟨record.position, rfl, iff_of_true rfl kept, fun moved => absurd rfl moved⟩
  · have moved := Grid.isOccupied_iff_mem_cellsOf.mp lost
    rw [freeCells_eq] at least
    have behind : record.position < p := by
      rcases lt_trichotomy record.position p with behind | same | before
      · exact behind
      · exact absurd (same ▸ moved) least.1.2
      · exact absurd (filled.noGaps _ moved unstored p least.1.1 before) least.1.2
    obtain ⟨inside, fewer⟩ := lost_iff.mp lost
    refine ⟨p, rfl, ?_, fun _ => ⟨least.1.1, behind⟩⟩
    exact iff_of_false behind.ne' fun enough => (enough inside).not_gt fewer

section Loading

variable {σ : Type} {backend : Backend σ} {name : String} {world last : σ} {before : List Dashlet}

/-- Whatever records the build server gives for a tab, of this tab or of others: if there is room for those of
the tab, loading comes to an end, and every record becomes the widget at its place in their order.  Take a
record at whose cell no earlier one is stored, such as any record that shares its cell with no other one.  It
stays at its cell exactly if this is outside the band, or if at least as many cells of the band come before
it at which no earlier record is stored as there are earlier records with the cell of one before them.
Otherwise it has to move itself, to a later cell of the band. -/
theorem unshared_cells_are_kept_iff (answered : backend.load name world = (.ok records, last))
    (room : HasRoom (fresh name geometry).grid (records.filter (·.belongsTo name)))
    (own : records.filter (·.belongsTo name) = before ++ record :: rest)
    (unshared : ∀ other ∈ before, other.position ≠ record.position) :
    ∃ state p, load? backend geometry name world = some (state, last) ∧
      state.grid.dashlets[before.length]? = some (record.moved p) ∧
      (p = record.position ↔
        (geometry.InBand record.position →
          surplus before ≤ (geometry.openBefore before record.position).ncard)) ∧
      (p ≠ record.position → geometry.InBand p ∧ record.position < p) := by
  obtain ⟨state, made⟩ := Option.isSome_iff_exists.mp (ofAnswer?_isSome_iff.mpr room)
  obtain ⟨settled, -⟩ := ofAnswer?_ok made
  rw [own, settleAll?_append, Option.bind_eq_some_iff] at settled
  obtain ⟨middle, first, settled⟩ := settled
  have geometries : middle.geometry = geometry := (settleAll?_eq_some first).geometry
  have filled : Filled middle.geometry before (cellsOf middle.dashlets) := by
    have filled := (Filled.nothing geometry).settleAll? first
    rwa [List.nil_append] at filled
  have unstored : record.position ∉ cellsOf before := by
    rw [mem_cellsOf]
    rintro ⟨other, earlier, same⟩
    exact unshared other earlier same
  rw [settleAll?] at settled
  cases here : settle? middle record with
  | none =>
      rw [here] at settled
      cases settled
  | some next =>
      rw [here] at settled
      obtain ⟨p, rfl, kept_iff, behind⟩ := filled.place here unstored
      rw [geometries] at kept_iff behind
      exact ⟨state, p, load?_eq_some answered made, getElem?_of_settleAll? rfl first settled, kept_iff,
        behind⟩

/-- The second of two records at one cell has to move, and there is a cell for it before that of the third
one. -/
theorem unshared_cells_are_kept_iff_spaced :
    ∃ state, load? Memory.backend {} "t1" .spaced = some (state, .spaced) ∧
      state.grid.dashlets.map Dashlet.position = [⟨1, 1⟩, ⟨2, 1⟩, ⟨3, 1⟩] ∧
      state.grid.dashlets[2]? = some ((Dashlet.measurement "t1" "Host Health" "mem").moved ⟨3, 1⟩) := by
  have room : HasRoom (fresh "t1" {}).grid (Memory.spaced.records.filter (·.belongsTo "t1")) :=
    settleAll?_isSome_iff.mp rfl
  have observed : (load? Memory.backend {} "t1" .spaced).map
      (fun loaded => loaded.1.grid.dashlets.map Dashlet.position) =
        some [⟨1, 1⟩, ⟨2, 1⟩, ⟨3, 1⟩] := by rfl
  have own : Memory.spaced.records.filter (·.belongsTo "t1") =
      [(Dashlet.overview "t1").moved ⟨1, 1⟩,
        (Dashlet.measurement "t1" "Host Health" "cpu").moved ⟨1, 1⟩] ++
          (Dashlet.measurement "t1" "Host Health" "mem").moved ⟨3, 1⟩ :: [] := rfl
  obtain ⟨state, p, loaded, placed, stays, -⟩ :=
    unshared_cells_are_kept_iff (Memory.load_of_script_nil "t1" rfl) room own (by decide)
  have gap : (⟨2, 1⟩ : Position) ∈ Geometry.openBefore {}
      [(Dashlet.overview "t1").moved ⟨1, 1⟩,
        (Dashlet.measurement "t1" "Host Health" "cpu").moved ⟨1, 1⟩] ⟨3, 1⟩ :=
    ⟨by decide, by decide, by decide⟩
  have enough := (Set.ncard_pos (Geometry.finite_openBefore ..)).mpr ⟨_, gap⟩
  rw [stays.mpr fun _ => enough] at placed
  rw [loaded, Option.map_some] at observed
  exact ⟨state, loaded, Option.some.inj observed, placed⟩

/-- The third record of the tab has its cell for itself, but the second one is moved to this cell before, so
that the third one has to move as well. -/
theorem unshared_cell_is_lost :
    ∃ (state : Tab) (record : Dashlet),
      load? Memory.backend {} "t1" .cascade = some (state, .cascade) ∧
      record ∈ Memory.cascade.records ∧ record.belongsTo "t1" = true ∧
      (∀ other ∈ Memory.cascade.records, other.belongsTo "t1" = true → other ≠ record →
        other.position ≠ record.position) ∧
      record ∉ state.grid.dashlets ∧ record.moved ⟨3, 1⟩ ∈ state.grid.dashlets := by
  have observed : (load? Memory.backend {} "t1" .cascade).map
      (fun loaded => (loaded.1.grid.dashlets, loaded.2)) =
        some ([(Dashlet.overview "t1").moved ⟨1, 1⟩,
          (Dashlet.measurement "t1" "Host Health" "cpu").moved ⟨2, 1⟩,
          (Dashlet.measurement "t1" "Host Health" "mem").moved ⟨3, 1⟩,
          { Dashlet.measurement "t1" "Host Health" "gc" with position := ⟨5, 9⟩, shown := false }],
          .cascade) := by rfl
  obtain ⟨⟨state, last⟩, loaded, seen⟩ := Option.map_eq_some_iff.mp observed
  obtain ⟨widgets, rfl⟩ := Prod.mk.inj seen
  dsimp only at widgets
  refine ⟨state, (Dashlet.measurement "t1" "Host Health" "mem").moved ⟨2, 1⟩, loaded,
    by decide, by decide, by decide, ?_, ?_⟩
  · rw [widgets]
    decide
  · rw [widgets]
    decide

end Loading

end Tab

end DashletBoard
