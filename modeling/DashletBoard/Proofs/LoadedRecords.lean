/-
Module: DashletBoard.Proofs.LoadedRecords
Purpose: What loading makes of any list of records: when it comes to an end, which records it keeps at
  their cells, and that what it has made is loaded again as it is.
Main exports: Tab.HasRoom, Tab.settleAll?_isSome_iff, Tab.settleAll?_first,
  Tab.loaded_records_are_kept_and_settled
-/
import DashletBoard.Proofs.SaveReload

namespace DashletBoard

namespace Tab

variable {grid after : Grid} {record : Dashlet} {records : List Dashlet}

/-!
### Room for records

A free cell is looked for only when the cell of a record is taken by the records before it.
-/

/-- Records can be placed one after the other: whenever the cell of one is taken by then, there is a free
cell in the band. -/
def HasRoom (grid : Grid) : List Dashlet → Prop
  | [] => True
  | record :: rest =>
      (grid.isOccupied record.position = true → grid.freeCells.Nonempty) ∧
        ∀ next, settle? grid record = some next → HasRoom next rest

theorem settle?_isSome_iff :
    (settle? grid record).isSome ↔
      (grid.isOccupied record.position = true → grid.freeCells.Nonempty) := by
  rw [settle?, Grid.insert_eq]
  cases taken : grid.isOccupied record.position with
  | false => simp
  | true => simp [Grid.add?_eq, Grid.nextFree?_isSome_iff]

/-- Placing records comes to an end exactly if there is room for them. -/
theorem settleAll?_isSome_iff : (settleAll? grid records).isSome ↔ HasRoom grid records := by
  induction records generalizing grid with
  | nil => exact ⟨fun _ => trivial, fun _ => rfl⟩
  | cons record rest ih =>
      rw [settleAll?, HasRoom, ← settle?_isSome_iff]
      cases settled : settle? grid record with
      | none => simp
      | some next => simp [ih]

/-!
### Records that keep their cells
-/

/-- The first record on an empty grid stays at its cell. -/
theorem settleAll?_first (empty : grid.dashlets = [])
    (settled : settleAll? grid records = some after) :
    after.dashlets.head? = records.head? := by
  cases records with
  | nil =>
      obtain rfl := Option.some.inj settled
      rw [empty]
  | cons record rest =>
      have free : grid.isOccupied record.position = false := by
        rw [Bool.eq_false_iff, Ne, Grid.isOccupied_iff, empty]
        exact List.not_mem_nil
      have here : settle? grid record = some (grid.placed record) := by
        rw [settle?, Grid.insert_eq_ok_iff.mpr ⟨free, rfl⟩]
      simp only [settleAll?, here] at settled
      obtain ⟨placed, dashlets, -⟩ := (settleAll?_eq_some settled).placed
      rw [dashlets, Grid.placed, empty]
      rfl

/-- Records at distinct cells all stay there, if the grid is empty. -/
theorem settleAll?_of_nodup (empty : grid.dashlets = [])
    (settled : settleAll? grid records = some after)
    (distinct : (records.map Dashlet.position).Nodup) : after.dashlets = records := by
  have placed : settleAll? grid records = some { grid with dashlets := grid.dashlets ++ records } := by
    apply settleAll?_of_distinct
    rw [empty]
    exact distinct
  rw [settled, empty] at placed
  exact congrArg Grid.dashlets (Option.some.inj placed)

/-!
### Loading
-/

section Loading

variable {σ : Type} {backend : Backend σ} {geometry : Geometry} {name : String} {world last : σ}
  {state : Tab}

theorem ofAnswer?_isSome_iff : (ofAnswer? name geometry (.ok records)).isSome ↔
    HasRoom (fresh name geometry).grid (records.filter (·.belongsTo name)) := by
  rw [ofAnswer?, Option.isSome_map, settleAll?_isSome_iff]

theorem Sound.reloaded_perm (sound : state.Sound geometry name) :
    (state.reloaded name geometry).grid.dashlets.Perm state.grid.dashlets := by
  have widgets : (state.reloaded name geometry).grid.dashlets = canonicalOrder state.grid.dashlets :=
    sound.records_eq
  rw [widgets]
  exact canonicalOrder_perm state.grid.dashlets

/-- What a tab that is sound would store makes a tab that would store the same. -/
theorem Sound.load?_records (sound : state.Sound geometry name)
    (answered : backend.load name world = (.ok state.grid.records, last)) :
    load? backend geometry name world = some (state.reloaded name geometry, last) :=
  load?_eq_some answered (sound.ofAnswer?_records (filter_belongsTo_of_owned sound.records_owned))

/-- Whatever records the build server gives for a tab, of this tab or of others, and whatever cells they
share: if there is room for those of the tab, loading comes to an end, and the tab has exactly these
records, in their order and unchanged apart from their cells, which are distinct.  The first record is at
its own cell, and so are all if their cells are distinct to begin with.  When what the tab would store is
loaded again, by whatever load, it makes a tab that would store the same. -/
theorem loaded_records_are_kept_and_settled
    (answered : backend.load name world = (.ok records, last))
    (room : HasRoom (fresh name geometry).grid (records.filter (·.belongsTo name))) :
    ∃ state, load? backend geometry name world = some (state, last) ∧
      state.grid.dashlets.map Dashlet.unplaced =
        (records.filter (·.belongsTo name)).map Dashlet.unplaced ∧
      (state.grid.dashlets.map Dashlet.position).Nodup ∧
      state.grid.dashlets.head? = (records.filter (·.belongsTo name)).head? ∧
      (((records.filter (·.belongsTo name)).map Dashlet.position).Nodup →
        state.grid.dashlets = records.filter (·.belongsTo name)) ∧
      ∀ again later, backend.load name again = (.ok state.grid.records, later) →
        ∃ reloaded, load? backend geometry name again = some (reloaded, later) ∧
          reloaded.grid.records = state.grid.records ∧
          reloaded.grid.dashlets.Perm state.grid.dashlets := by
  obtain ⟨state, made⟩ := Option.isSome_iff_exists.mp (ofAnswer?_isSome_iff.mpr room)
  have sound : state.Sound geometry name := sound_ofAnswer? made
  obtain ⟨settled, -⟩ := ofAnswer?_ok made
  obtain ⟨placed, dashlets, contents⟩ := (settleAll?_eq_some settled).placed
  refine ⟨state, load?_eq_some answered made, ?_, sound.distinct, settleAll?_first rfl settled,
    settleAll?_of_nodup rfl settled, ?_⟩
  · rw [dashlets, List.nil_append, contents]
  · intro again later answeredAgain
    exact ⟨_, sound.load?_records answeredAgain, sound.records_reloaded, sound.reloaded_perm⟩

/-- Four records of a tab and one of another tab.  The second record goes to the cell of the third one,
which has to move then, too; the last one stays. -/
theorem loaded_records_are_kept_and_settled_cascade :
    ∃ state reloaded : Tab,
      load? Memory.backend {} "t1" .cascade = some (state, .cascade) ∧
        state.grid.dashlets.map Dashlet.position = [⟨1, 1⟩, ⟨2, 1⟩, ⟨3, 1⟩, ⟨5, 9⟩] ∧
        state.grid.dashlets.map Dashlet.unplaced =
          (Memory.cascade.records.filter (·.belongsTo "t1")).map Dashlet.unplaced ∧
        load? Memory.backend {} "t1" { records := state.grid.records } =
          some (reloaded, { records := state.grid.records }) ∧
        reloaded.grid.records = state.grid.records := by
  have room : HasRoom (fresh "t1" {}).grid (Memory.cascade.records.filter (·.belongsTo "t1")) :=
    settleAll?_isSome_iff.mp rfl
  have observed : (load? Memory.backend {} "t1" .cascade).map
      (fun loaded => loaded.1.grid.dashlets.map Dashlet.position) =
        some [⟨1, 1⟩, ⟨2, 1⟩, ⟨3, 1⟩, ⟨5, 9⟩] := by rfl
  have answered : Memory.backend.load "t1" .cascade = (.ok Memory.cascade.records, .cascade) := rfl
  obtain ⟨state, loaded, contents, -, -, -, again⟩ :=
    loaded_records_are_kept_and_settled answered room
  obtain ⟨reloaded, loadedAgain, same, -⟩ := again { records := state.grid.records } _
    (Memory.load_of_script_nil "t1" rfl)
  rw [loaded, Option.map_some] at observed
  exact ⟨state, reloaded, loaded, Option.some.inj observed, contents, loadedAgain, same⟩

end Loading

end Tab

end DashletBoard
