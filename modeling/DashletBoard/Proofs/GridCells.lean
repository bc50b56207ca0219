/-
Module: DashletBoard.Proofs.GridCells
Purpose: A grid is a finite map from positions to widgets.  Whatever is asked of it, in whatever order,
  the answers are those of the map.
Main exports: Cells, Cells.answer?, Grid.cells, Grid.answer?_cells, Grid.answerAll?_cells,
  Grid.answers_are_those_of_cells
-/
import Mathlib.Data.Finmap
import Mathlib.Data.Finset.Sort
import DashletBoard.Proofs.GridRequests

namespace DashletBoard

/-!
### The map

Changes are said with keys only: no list and no place in a list.
-/

/-- A finite map from positions to widgets. -/
abbrev Cells := Finmap fun _ : Position => Dashlet

namespace Cells

open Grid (Request Response)

/-- The cells of the band that are no keys. -/
def free (geometry : Geometry) (cells : Cells) : Set Position :=
  { p | geometry.InBand p ∧ p ∉ cells }

open Classical in
/-- The least cell of the band that is no key; none if every cell of the band is one. -/
noncomputable def firstFree? (geometry : Geometry) (cells : Cells) : Option Position :=
  if some : (cells.free geometry).Nonempty then
    .some (wellFounded_lt.min (cells.free geometry) some)
  else none

/-- The values in ascending order of their keys. -/
def values (cells : Cells) : List Dashlet := cells.keys.sort.filterMap cells.lookup

/-- The map after a value got another key.  A value that had that key gets the vacated one. -/
def rekeyed (cells : Cells) (source target : Position) (d : Dashlet) : Cells :=
  if source = target then cells
  else
    match cells.lookup target with
    | none => (cells.erase source).insert target (d.moved target)
    | some other => ((cells.insert target (d.moved target)).insert source (other.moved source))

/-- The answer of the map, and the map after it. -/
noncomputable def answer? (dashboard : String) (geometry : Geometry) (cells : Cells) :
    Request → Option (Response × Cells)
  | .insert d =>
      match cells.lookup d.position with
      | some _ => some (.failed (.occupied d.position), cells)
      | none => some (.done, cells.insert d.position d)
  | .add d =>
      (cells.firstFree? geometry).map fun free => (.position free, cells.insert free (d.moved free))
  | .nextFree => (cells.firstFree? geometry).map fun free => (.position free, cells)
  | .remove p =>
      match cells.lookup p with
      | none => some (.failed (.notFound p), cells)
      | some d => some (.removed d, cells.erase p)
  | .move source target =>
      match cells.lookup source with
      | none => some (.failed (.notFound source), cells)
      | some d => some (.done, cells.rekeyed source target d)
  | .setShown p shown =>
      match cells.lookup p with
      | none => some (.failed (.notFound p), cells)
      | some d => some (.done, cells.insert p { d with shown := shown })
  | .get p => some (.found (cells.lookup p), cells)
  | .isOccupied p => some (.flag (decide (p ∈ cells)), cells)
  | .size => some (.count cells.keys.card, cells)
  | .isEmpty => some (.flag (decide (cells = ∅)), cells)
  | .records => some (.records (cells.values.map fun d => d.stamped dashboard), cells)

end Cells

/-!
### The map of a grid
-/

namespace Grid

variable {grid changed : Grid} {d : Dashlet} {p q source target : Position} {shown : Bool}

/-- The map of a grid: every widget under its position. -/
def cells (grid : Grid) : Cells :=
  (grid.dashlets.map fun d => (⟨d.position, d⟩ : Sigma fun _ : Position => Dashlet)).toFinmap

@[simp] theorem lookup_cells : grid.cells.lookup p = grid.get? p := by
  rw [cells, Finmap.dlookup_list_toFinmap, get?]
  induction grid.dashlets with
  | nil => rfl
  | cons head rest ih =>
      by_cases here : head.position = p
      · subst here
        simp
      · simp only [List.map_cons]
        rw [List.dlookup_cons_ne _ _ (Ne.symm here), ih, List.find?_cons_of_neg (by simpa using here)]

theorem mem_cells : p ∈ grid.cells ↔ grid.isOccupied p = true := by
  rw [← Finmap.lookup_isSome, lookup_cells, isOccupied]

theorem keys_cells : grid.cells.keys = (grid.dashlets.map Dashlet.position).toFinset := by
  ext p
  rw [Finmap.mem_keys, mem_cells, isOccupied_iff, List.mem_toFinset]

theorem free_cells : grid.cells.free grid.geometry = grid.freeCells := by
  ext p
  simp [Cells.free, freeCells, mem_cells]

theorem firstFree?_cells : grid.cells.firstFree? grid.geometry = grid.nextFree? := by
  symm
  rw [Cells.firstFree?]
  split
  next some =>
    rw [nextFree?_eq_some_iff, ← free_cells]
    refine ⟨wellFounded_lt.min_mem _ some, fun q member => ?_⟩
    exact not_lt.mp (wellFounded_lt.not_lt_min _ member)
  next none =>
    rw [nextFree?_eq_none_iff, ← free_cells]
    exact Set.not_nonempty_iff_eq_empty.mp none

theorem cells_placed (free : grid.isOccupied d.position = false) :
    (grid.placed d).cells = grid.cells.insert d.position d := by
  apply Finmap.ext_lookup
  intro q
  rw [lookup_cells, get?_placed]
  by_cases here : d.position = q
  · subst here
    rw [Finmap.lookup_insert, get?_eq_none_iff.mpr free, if_pos rfl, Option.none_or]
  · rw [Finmap.lookup_insert_of_ne _ (Ne.symm here), lookup_cells, if_neg here, Option.or_none]

theorem cells_without (distinct : grid.Distinct) :
    (grid.without p).cells = grid.cells.erase p := by
  apply Finmap.ext_lookup
  intro q
  rw [lookup_cells]
  by_cases here : q = p
  · rw [here, distinct.get?_without_self, Finmap.lookup_erase]
  · rw [get?_without_of_ne here, Finmap.lookup_erase_ne here, lookup_cells]

/-- Where nothing is exchanged, a move finds the widget that was there. -/
theorem map_moved_get? : ((grid.get? q).map fun d => d.moved q) = grid.get? q := by
  cases found : grid.get? q with
  | none => rfl
  | some d =>
      rw [Option.map_some, ← position_of_get?_eq_some found]
      rfl

theorem cells_exchange (known : grid.get? source = some d) :
    (grid.exchange source target).cells = grid.cells.rekeyed source target d := by
  apply Finmap.ext_lookup
  intro q
  rw [lookup_cells, get?_exchange, Cells.rekeyed]
  by_cases still : source = target
  · rw [if_pos still, ← still, exchanged_self, map_moved_get?, lookup_cells]
  rw [if_neg still, lookup_cells]
  by_cases atSource : q = source
  · have comes : exchanged source target q = target := by simp [exchanged, atSource]
    rw [comes, atSource]
    cases found : grid.get? target with
    | none =>
        rw [Finmap.lookup_insert_of_ne _ still, Finmap.lookup_erase]
        rfl
    | some other =>
        rw [Finmap.lookup_insert]
        rfl
  by_cases atTarget : q = target
  · have comes : exchanged source target q = source := by
      simp [exchanged, atTarget, Ne.symm still]
    rw [comes, atTarget, known]
    cases grid.get? target with
    | none =>
        rw [Finmap.lookup_insert]
        rfl
    | some other =>
        rw [Finmap.lookup_insert_of_ne _ (Ne.symm still), Finmap.lookup_insert]
        rfl
  have stays : exchanged source target q = q := by simp [exchanged, atSource, atTarget]
  rw [stays, map_moved_get?]
  cases grid.get? target with
  | none =>
      rw [Finmap.lookup_insert_of_ne _ atTarget, Finmap.lookup_erase_ne atSource, lookup_cells]
  | some other =>
      rw [Finmap.lookup_insert_of_ne _ atSource, Finmap.lookup_insert_of_ne _ atTarget, lookup_cells]

theorem cells_showing (known : grid.get? p = some d) :
    (grid.showing p shown).cells = grid.cells.insert p { d with shown := shown } := by
  apply Finmap.ext_lookup
  intro q
  rw [lookup_cells, get?_showing]
  by_cases here : q = p
  · rw [here, known, Finmap.lookup_insert]
    simp
  · rw [Finmap.lookup_insert_of_ne _ here, lookup_cells]
    simp [here]

/-- The values of the map are the widgets of the grid in canonical order: positions that are distinct
leave no choice of the order. -/
theorem values_cells (distinct : grid.Distinct) :
    grid.cells.values = canonicalOrder grid.dashlets := by
  have ascending := canonicalOrder_strictly_ascending distinct
  have keys : grid.cells.keys.sort = (canonicalOrder grid.dashlets).map Dashlet.position := by
    have nodup := ascending.nodup
    rw [keys_cells, ← List.toFinset_eq_of_perm _ _ ((canonicalOrder_perm _).map _)]
    exact (List.toFinset_sort _ nodup).mpr (ascending.imp le_of_lt)
  have found : ∀ d ∈ canonicalOrder grid.dashlets,
      grid.cells.lookup d.position = some d := by
    intro d member
    rw [lookup_cells]
    exact distinct.get?_eq_some_iff.mpr ⟨mem_canonicalOrder.mp member, rfl⟩
  rw [Cells.values, keys, List.filterMap_map]
  exact (List.filterMap_congr found).trans List.filterMap_some

theorem records_cells (distinct : grid.Distinct) :
    (grid.cells.values.map fun d => d.stamped grid.dashboard) = grid.records := by
  rw [values_cells distinct, records_eq]

theorem card_keys_cells (distinct : grid.Distinct) : grid.cells.keys.card = grid.size := by
  rw [keys_cells, List.toFinset_card_of_nodup distinct, List.length_map, size]

theorem cells_eq_empty_iff : grid.cells = ∅ ↔ grid.isEmpty = true := by
  rw [isEmpty, List.isEmpty_iff]
  constructor
  · intro none
    have keys := congrArg Finmap.keys none
    rw [keys_cells, Finmap.keys_empty, List.toFinset_eq_empty_iff] at keys
    exact List.map_eq_nil_iff.mp keys
  · intro none
    rw [cells, none]
    rfl

/-!
### Single requests
-/

/-- The answer of a grid to a request is the answer of its map. -/
theorem answer?_cells (distinct : grid.Distinct) (request : Request) :
    (grid.answer? request).map (Prod.map id cells) =
      grid.cells.answer? grid.dashboard grid.geometry request := by
  cases request with
  | insert d =>
      rw [Grid.answer?, Cells.answer?, lookup_cells, insert_eq]
      cases taken : grid.isOccupied d.position with
      | true =>
          obtain ⟨other, found⟩ := Option.isSome_iff_exists.mp taken
          simp [found, changeAnswer]
      | false => simp [get?_eq_none_iff.mpr taken, changeAnswer, cells_placed taken]
  | add d =>
      rw [Grid.answer?, Cells.answer?, firstFree?_cells, add?_eq]
      cases search : grid.nextFree? with
      | none => rfl
      | some free =>
          have added := cells_placed (d := d.moved free) (isOccupied_of_nextFree? search)
          simp [added]
  | nextFree =>
      rw [Grid.answer?, Cells.answer?, firstFree?_cells]
      simp [Function.comp_def]
  | remove p =>
      rw [Grid.answer?, Cells.answer?, lookup_cells, remove]
      cases found : grid.get? p with
      | none => simp
      | some d => simp [← cells_without distinct, without]
  | move source target =>
      rw [Grid.answer?, Cells.answer?, lookup_cells, distinct.move_eq]
      cases known : grid.get? source with
      | none => simp [get?_eq_none_iff.mp known, changeAnswer]
      | some d => simp [isOccupied, known, changeAnswer, cells_exchange known]
  | setShown p shown =>
      rw [Grid.answer?, Cells.answer?, lookup_cells, distinct.setShown_eq]
      cases known : grid.get? p with
      | none => simp [get?_eq_none_iff.mp known, changeAnswer]
      | some d => simp [isOccupied, known, changeAnswer, cells_showing known]
  | get p => simp [Grid.answer?, Cells.answer?]
  | isOccupied p => simp [Grid.answer?, Cells.answer?, mem_cells]
  | size => simp [Grid.answer?, Cells.answer?, card_keys_cells distinct]
  | isEmpty => simp [Grid.answer?, Cells.answer?, cells_eq_empty_iff]
  | records => simp [Grid.answer?, Cells.answer?, records_cells distinct]

/-!
### Sequences of requests
-/

theorem cells_eq_of_perm {shuffled : List Dashlet} (distinct : grid.Distinct)
    (same : shuffled.Perm grid.dashlets) :
    ({ grid with dashlets := shuffled } : Grid).cells = grid.cells := by
  have shuffledDistinct : ({ grid with dashlets := shuffled } : Grid).Distinct :=
    (same.map Dashlet.position).nodup_iff.mpr distinct
  apply Finmap.ext_lookup
  intro p
  rw [lookup_cells, lookup_cells]
  apply Option.ext
  intro d
  rw [shuffledDistinct.get?_eq_some_iff, distinct.get?_eq_some_iff, same.mem_iff]

/-- Whatever is asked of a grid with distinct positions, in whatever order, the answers and the map
after them are those of the map. -/
theorem answerAll?_cells (distinct : grid.Distinct) (requests : List Request) :
    (answerAll? answer? grid requests).map (Prod.map id cells) =
      answerAll? (Cells.answer? grid.dashboard grid.geometry) grid.cells requests := by
  apply answerAll?_agrees cells _ _ requests distinct.sameTab_self
  · intro state request response next kept answered
    exact kept.answer? answered
  · intro state request kept
    rw [answer?_cells kept.distinct, kept.dashboard, kept.geometry]

/-- The answers do not depend on the order in which the widgets of a grid are held. -/
theorem answers_eq_of_perm {shuffled : List Dashlet} (distinct : grid.Distinct)
    (same : shuffled.Perm grid.dashlets) (requests : List Request) :
    (answerAll? answer? { grid with dashlets := shuffled } requests).map Prod.fst =
      (answerAll? answer? grid requests).map Prod.fst := by
  have shuffledDistinct : ({ grid with dashlets := shuffled } : Grid).Distinct :=
    (same.map Dashlet.position).nodup_iff.mpr distinct
  have answers (grid : Grid) : (answerAll? answer? grid requests).map Prod.fst =
      ((answerAll? answer? grid requests).map (Prod.map id cells)).map Prod.fst := by
    rw [Option.map_map]
    rfl
  rw [answers, answers grid, answerAll?_cells shuffledDistinct, answerAll?_cells distinct,
    cells_eq_of_perm distinct same]

/-- A grid that starts without widgets answers every sequence of requests like a finite map from
positions to widgets that starts empty, and it has no answer where the map has none: where a free cell
is needed and the band has none.  After every sequence positions are distinct, the records are in
strictly ascending order, the contents are those brought in less those taken out, and the order in which
the widgets are held shows in no later answer. -/
theorem answers_are_those_of_cells (dashboard : String) (geometry : Geometry)
    (requests : List Request) :
    (answerAll? answer? { dashboard, geometry } requests).map (Prod.map id cells) =
        answerAll? (Cells.answer? dashboard geometry) ∅ requests ∧
      ∀ responses grid,
        answerAll? answer? { dashboard, geometry } requests = some (responses, grid) →
        grid.Distinct ∧
          (grid.records.map Dashlet.position).Pairwise (· < ·) ∧
          ((grid.dashlets ++ responses.flatMap Response.takenOut).map Dashlet.content).Perm
            ((List.zipWith Request.broughtIn requests responses).flatten.map Dashlet.content) ∧
          ∀ shuffled, shuffled.Perm grid.dashlets → ∀ further,
            (answerAll? answer? { grid with dashlets := shuffled } further).map Prod.fst =
              (answerAll? answer? grid further).map Prod.fst := by
  have empty : ({ dashboard, geometry } : Grid).Distinct := List.nodup_nil
  constructor
  · exact answerAll?_cells empty requests
  · intro responses grid answered
    have distinct := (empty.answerAll? answered).distinct
    refine ⟨distinct, distinct.records_ascending, by simpa using answerAll?_ledger answered, ?_⟩
    intro shuffled same further
    exact answers_eq_of_perm distinct same further

/-- A widget that comes to a taken cell gets a free one instead, and is then exchanged with the other. -/
theorem answers_are_those_of_cells_exchange :
    ∃ responses grid,
      answerAll? answer? { dashboard := "t1", geometry := {} }
          [.insert ((Dashlet.overview "t1").moved ⟨1, 1⟩),
            .insert ((Dashlet.overview "t1").moved ⟨1, 1⟩),
            .add (Dashlet.measurement "t1" "Host Health" "cpu"), .move ⟨1, 1⟩ ⟨2, 1⟩] =
          some (responses, grid) ∧
        responses = [.done, .failed (.occupied ⟨1, 1⟩), .position ⟨2, 1⟩, .done] ∧
        grid.dashlets.map Dashlet.position = [⟨2, 1⟩, ⟨1, 1⟩] ∧
        (grid.records.map Dashlet.position).Pairwise (· < ·) := by
  have observed : (answerAll? answer? { dashboard := "t1", geometry := {} }
          [.insert ((Dashlet.overview "t1").moved ⟨1, 1⟩),
            .insert ((Dashlet.overview "t1").moved ⟨1, 1⟩),
            .add (Dashlet.measurement "t1" "Host Health" "cpu"), .move ⟨1, 1⟩ ⟨2, 1⟩]).map
        (Prod.map id fun grid => grid.dashlets.map Dashlet.position) =
      some ([.done, .failed (.occupied ⟨1, 1⟩), .position ⟨2, 1⟩, .done], [⟨2, 1⟩, ⟨1, 1⟩]) := by rfl
  obtain ⟨⟨responses, grid⟩, answered, seen⟩ := Option.map_eq_some_iff.mp observed
  obtain ⟨same, positions⟩ := Prod.mk.inj seen
  have after := (answers_are_those_of_cells "t1" {} _).2 responses grid answered
  exact ⟨responses, grid, answered, same, positions, after.2.1⟩

end Grid

end DashletBoard
