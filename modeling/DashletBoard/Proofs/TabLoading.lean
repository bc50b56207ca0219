/-
Module: DashletBoard.Proofs.TabLoading
Purpose: Loading places every record of a tab once, at its own cell unless that is taken, and never two
  at one position.
Main exports: Tab.settle?_cases, Tab.settle?_eq_some, Tab.settleAll?_eq_some,
  Tab.settleAll?_of_distinct, Tab.ofAnswer?_ok, Tab.ofAnswer?_error, Tab.load?_eq_some
-/
import DashletBoard.Board.Tab
import DashletBoard.Proofs.GridPlacement

namespace DashletBoard

theorem Dashlet.moved_position_self (d : Dashlet) : d.moved d.position = d := rfl

theorem Dashlet.dashboard_of_unplaced_eq {d other : Dashlet} (same : d.unplaced = other.unplaced) :
    d.dashboard = other.dashboard := by
  have fields := congrArg Dashlet.dashboard same
  exact fields

namespace Tab

variable {grid after : Grid} {record : Dashlet} {records : List Dashlet}

/-- A record is placed at its own cell, or at the first free one if that is taken. -/
theorem settle?_cases (settled : settle? grid record = some after) :
    (grid.isOccupied record.position = false ∧ after = grid.placed record) ∨
      (grid.isOccupied record.position = true ∧
        ∃ p, IsLeast grid.freeCells p ∧ after = grid.placed (record.moved p)) := by
  rw [settle?] at settled
  cases taken : grid.isOccupied record.position with
  | false =>
      rw [Grid.insert_eq_ok_iff.mpr ⟨taken, rfl⟩] at settled
      exact .inl ⟨rfl, (Option.some.inj settled).symm⟩
  | true =>
      rw [Grid.insert_eq, if_pos taken] at settled
      obtain ⟨⟨p, placed⟩, added, rfl⟩ := Option.map_eq_some_iff.mp settled
      obtain ⟨search, rfl⟩ := Grid.add?_eq_some_iff.mp added
      exact .inr ⟨rfl, p, Grid.nextFree?_eq_some_iff.mp search, rfl⟩

/-- A record that is placed is at a cell that was free, and at its own cell if that was free. -/
theorem settle?_eq_some (settled : settle? grid record = some after) :
    ∃ p, grid.isOccupied p = false ∧
      (grid.isOccupied record.position = false → p = record.position) ∧
      after = grid.placed (record.moved p) := by
  rcases settle?_cases settled with ⟨free, rfl⟩ | ⟨taken, p, least, rfl⟩
  · exact ⟨record.position, free, fun _ => rfl, by rw [Dashlet.moved_position_self]⟩
  · refine ⟨p, least.1.2, fun free => ?_, rfl⟩
    rw [taken] at free
    cases free

/-- What placing records leaves of the grid and of the records. -/
structure Settled (grid : Grid) (records : List Dashlet) (after : Grid) : Prop where
  dashboard : after.dashboard = grid.dashboard
  geometry : after.geometry = grid.geometry
  distinct : grid.Distinct → after.Distinct
  placed : ∃ placed, after.dashlets = grid.dashlets ++ placed ∧
    placed.map Dashlet.unplaced = records.map Dashlet.unplaced

theorem settleAll?_eq_some (settled : settleAll? grid records = some after) :
    Settled grid records after := by
  induction records generalizing grid with
  | nil =>
      obtain rfl := Option.some.inj settled
      exact ⟨rfl, rfl, id, [], (List.append_nil _).symm, rfl⟩
  | cons record rest ih =>
      rw [settleAll?] at settled
      cases first : settle? grid record with
      | none =>
          rw [first] at settled
          cases settled
      | some next =>
          rw [first] at settled
          obtain ⟨p, free, -, rfl⟩ := settle?_eq_some first
          obtain ⟨dashboard, geometry, distinct, placed, dashlets, contents⟩ := ih settled
          refine ⟨dashboard, geometry, fun start => distinct (start.placed free), record.moved p :: placed,
            ?_, ?_⟩
          · rw [dashlets, Grid.placed, List.append_assoc, List.singleton_append]
          · rw [List.map_cons, List.map_cons, contents, Dashlet.unplaced_moved]

/-- Records at distinct cells, none of them taken, stay at their cells. -/
theorem settleAll?_of_distinct
    (distinct : ({ grid with dashlets := grid.dashlets ++ records } : Grid).Distinct) :
    settleAll? grid records = some { grid with dashlets := grid.dashlets ++ records } := by
  induction records generalizing grid with
  | nil => simp [settleAll?]
  | cons record rest ih =>
      have free : grid.isOccupied record.position = false := by
        rw [Bool.eq_false_iff, Ne, Grid.isOccupied_iff]
        intro taken
        rw [Grid.Distinct, List.map_append, List.map_cons] at distinct
        exact (List.nodup_append.mp distinct).2.2 _ taken _ (List.mem_cons_self ..) rfl
      have here : settle? grid record = some (grid.placed record) := by
        rw [settle?, Grid.insert_eq_ok_iff.mpr ⟨free, rfl⟩]
      have there : settleAll? (grid.placed record) rest =
          some { grid with dashlets := grid.dashlets ++ [record] ++ rest } := by
        apply ih
        simpa [Grid.Distinct, Grid.placed] using distinct
      rw [settleAll?, here]
      simpa using there

/-!
### Answers to a load
-/

variable {name : String} {geometry : Geometry} {state : Tab}

/-- The grid of a tab that was loaded from records holds those that belong to the tab. -/
theorem ofAnswer?_ok (loaded : ofAnswer? name geometry (.ok records) = some state) :
    settleAll? { dashboard := name, geometry } (records.filter (·.belongsTo name)) =
        some state.grid ∧
      state = { fresh name geometry with grid := state.grid } := by
  obtain ⟨grid, settled, rfl⟩ := Option.map_eq_some_iff.mp loaded
  exact ⟨settled, rfl⟩

theorem ofAnswer?_error {failure : Failure}
    (loaded : ofAnswer? name geometry (.error failure) = some state) :
    state = { fresh name geometry with loadError := some failure.text } :=
  (Option.some.inj loaded).symm

theorem load?_eq_some {σ : Type} {backend : Backend σ} {world last : σ}
    {answer : Except Failure (List Dashlet)} (answered : backend.load name world = (answer, last))
    (made : ofAnswer? name geometry answer = some state) :
    load? backend geometry name world = some (state, last) := by
  simp only [load?, answered, made, Option.map_some]

end Tab

end DashletBoard
