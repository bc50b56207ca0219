/-
Module: DashletBoard.Proofs.EndingCommands
Purpose: Which commands on a board come to an end: those that find room for all that they place.  A band
  that is full is searched for ever.
Main exports: Tab.LoadHasRoom, Tab.HasRoomFor, Tab.act?_isSome_iff, Tab.hasRoom_of_length_le,
  Board.HasRoomFor, Board.perform?_isSome_iff, Board.run?_isSome_of_stored,
  Board.searches_end_while_the_band_has_room, Board.full_band_is_searched_for_ever
-/
import DashletBoard.Proofs.BandRoom
import DashletBoard.Proofs.LoadedRecords

namespace DashletBoard

section Ends

variable {σ : Type} {backend : Backend σ} {geometry : Geometry} {name : String} {world after : σ}

/-!
### Operations

Only a load and a new widget place anything.
-/

namespace Tab

variable {state next : Tab} {action : Action} {reply : BoardReply}

/-- There is room for the records of a tab that a load of it gives. -/
def LoadHasRoom (backend : Backend σ) (geometry : Geometry) (name : String) (world : σ) : Prop :=
  ∀ records, (backend.load name world).1 = .ok records →
    HasRoom (fresh name geometry).grid (records.filter (·.belongsTo name))

theorem load?_isSome_iff :
    (load? backend geometry name world).isSome ↔ LoadHasRoom backend geometry name world := by
  rw [load?, Option.isSome_map, LoadHasRoom]
  cases (backend.load name world).1 with
  | ok records => simp [ofAnswer?_isSome_iff]
  | error failure => simp [ofAnswer?]

/-- There is room for all that an operation places: for a new widget a free cell, and for a load all
records that it gives.  An operation that is refused places nothing, nor does a save that fails. -/
def HasRoomFor (backend : Backend σ) (geometry : Geometry) (name : String) (state : Tab) (world : σ) :
    Action → Prop
  | .addWidget =>
      state.mode = .edit → (state.form.dashlet? name).isSome → state.grid.freeCells.Nonempty
  | .cancelEdit => LoadHasRoom backend geometry name world
  | .save =>
      state.mode = .edit → ∀ middle, backend.save name state.grid.records world = (.ok (), middle) →
        LoadHasRoom backend geometry name middle
  | _ => True

theorem reload?_isSome_iff :
    (reload? backend geometry name world).isSome ↔ LoadHasRoom backend geometry name world := by
  rw [reload?, Option.isSome_map, load?_isSome_iff]

theorem addWidget?_isSome_iff : (state.addWidget? name world).isSome ↔
    ((state.form.dashlet? name).isSome → state.grid.freeCells.Nonempty) := by
  rw [addWidget?]
  cases state.form.dashlet? name with
  | none => simp
  | some d => simp [Grid.add?_eq, Grid.nextFree?_isSome_iff]

theorem save?_isSome_iff : (state.save? backend geometry name world).isSome ↔
    ∀ middle, backend.save name state.grid.records world = (.ok (), middle) →
      LoadHasRoom backend geometry name middle := by
  rw [save?]
  rcases backend.save name state.grid.records world with ⟨failure | done, middle⟩
  · simp
  · simp [reload?_isSome_iff]

/-- An operation comes to an end exactly if there is room for what it places. -/
theorem act?_isSome_iff : (state.act? backend geometry name action world).isSome ↔
    state.HasRoomFor backend geometry name world action := by
  cases mode : state.mode with
  | edit =>
      cases action with
      | addWidget => simp [act?, HasRoomFor, mode, addWidget?_isSome_iff]
      | cancelEdit => simp [act?, HasRoomFor, mode, reload?_isSome_iff]
      | save => simp [act?, HasRoomFor, mode, save?_isSome_iff]
      | _ => simp [act?, HasRoomFor, mode]
  | view =>
      cases action with
      | cancelEdit => simp [act?, Action.needsEdit, HasRoomFor, reload?_isSome_iff]
      | enterEdit => simp [act?, Action.needsEdit, HasRoomFor]
      | _ =>
          rw [act?_of_view mode rfl]
          simp [HasRoomFor, mode]

/-!
### Room by count

A record that is placed takes one cell at most, so that a band with more cells than records has room for
all of them, whatever cells they ask for.
-/

theorem hasRoom_of_length_le {grid : Grid} {records : List Dashlet}
    (few : grid.size + records.length ≤ grid.geometry.bandSize) : HasRoom grid records := by
  induction records generalizing grid with
  | nil => trivial
  | cons record rest ih =>
      rw [List.length_cons] at few
      constructor
      · intro _
        apply Grid.freeCells_nonempty_of_size_lt
        omega
      · intro next settled
        obtain ⟨p, -, -, rfl⟩ := settle?_eq_some settled
        apply ih
        have more : (grid.placed (record.moved p)).size = grid.size + 1 := by
          simp [Grid.size, Grid.placed]
        rw [more]
        exact (Nat.add_right_comm ..).trans_le few

theorem size_of_ofAnswer? {records : List Dashlet}
    (made : ofAnswer? name geometry (.ok records) = some state) :
    state.grid.size = (records.filter (·.belongsTo name)).length := by
  obtain ⟨settled, -⟩ := ofAnswer?_ok made
  obtain ⟨placed, dashlets, contents⟩ := (settleAll?_eq_some settled).placed
  have count := congrArg List.length contents
  rw [List.length_map, List.length_map] at count
  rw [Grid.size, dashlets, List.nil_append, count]

end Tab

/-!
### Commands
-/

namespace Board

variable {board : Board} {command : Command}

/-- There is room for the records that loads of tabs give, one tab after the other. -/
def LoadsHaveRoom (backend : Backend σ) (geometry : Geometry) : List String → σ → Prop
  | [], _ => True
  | name :: rest, world =>
      Tab.LoadHasRoom backend geometry name world ∧
        LoadsHaveRoom backend geometry rest (backend.load name world).2

/-- There is room for all that a command places. -/
def HasRoomFor (backend : Backend σ) (place : Board × σ) : Command → Prop
  | .loadTabs names => LoadsHaveRoom backend place.1.geometry names place.2
  | .act name action =>
      ∀ state, place.1.tab? name = some state →
        state.HasRoomFor backend place.1.geometry name place.2 action

theorem initialize?_isSome_iff {names : List String} :
    (board.initialize? backend names world).isSome ↔
      LoadsHaveRoom backend board.geometry names world := by
  induction names generalizing board world with
  | nil => exact ⟨fun _ => trivial, fun _ => rfl⟩
  | cons name rest ih =>
      rw [initialize?, LoadsHaveRoom, ← Tab.load?_isSome_iff]
      cases loaded : Tab.load? backend board.geometry name world with
      | none => simp
      | some found =>
          obtain ⟨state, -, rfl⟩ := Option.map_eq_some_iff.mp loaded
          exact ih.trans (and_iff_right rfl).symm

/-- A command comes to an end exactly if there is room for what it places. -/
theorem perform?_isSome_iff : (perform? backend (board, world) command).isSome ↔
    HasRoomFor backend (board, world) command := by
  cases command with
  | loadTabs names => rw [perform?, Option.isSome_map, initialize?_isSome_iff, HasRoomFor]
  | act name action =>
      rw [perform?, act?, HasRoomFor]
      cases known : board.tab? name with
      | none => simp
      | some state => simp [Tab.act?_isSome_iff]

end Board

end Ends

/-!
### Runs over a store

Apart from what it loads, a command brings in one widget at most, and loads give what is stored.  So a band
with room for one more widget a command, beside the records of any one tab, is never full.
-/

section Stores

variable {σ : Type} {backend : Backend σ} {stored : σ → List Dashlet} {geometry : Geometry}
  {name : String} {world after : σ} {spare : Nat} {state next : Tab} {action : Action}
  {reply : BoardReply}

/-- A tab that is loaded has no more widgets than records. -/
theorem Backend.Stores.size_of_load? (store : backend.Stores stored)
    (loaded : Tab.load? backend geometry name world = some (state, after)) :
    state.grid.size ≤ ((stored world).filter (·.belongsTo name)).length := by
  obtain ⟨-, made | ⟨failure, made⟩⟩ := store.loaded loaded
  · exact (Tab.size_of_ofAnswer? made).le
  · rw [Tab.ofAnswer?_error made]
    exact Nat.zero_le _

/-- What is stored for a tab, and its widgets, leave cells of the band. -/
structure Tab.LeavesSpare (geometry : Geometry) (spare : Nat) (name : String) (records : List Dashlet)
    (state : Tab) : Prop where
  stored : (records.filter (·.belongsTo name)).length + spare ≤ geometry.bandSize
  shown : state.grid.size + spare ≤ geometry.bandSize

namespace Tab

theorem LeavesSpare.mono {records : List Dashlet} {fewer : Nat}
    (leaves : state.LeavesSpare geometry spare name records) (fewer_le : fewer ≤ spare) :
    state.LeavesSpare geometry fewer name records :=
  ⟨(Nat.add_le_add_left fewer_le _).trans leaves.stored,
    (Nat.add_le_add_left fewer_le _).trans leaves.shown⟩

theorem leavesSpare_of_load? (store : backend.Stores stored)
    (room : ((stored world).filter (·.belongsTo name)).length + spare ≤ geometry.bandSize)
    (loaded : load? backend geometry name world = some (state, after)) :
    state.LeavesSpare geometry spare name (stored after) := by
  constructor
  · rw [(store.loaded loaded).1]
    exact room
  · exact (Nat.add_le_add_right (store.size_of_load? loaded) _).trans room

/-- An effect on a tab uses up the room for one widget at most. -/
theorem LeavesSpare.effect (store : backend.Stores stored) (sound : state.Sound geometry name)
    (leaves : state.LeavesSpare geometry (spare + 1) name (stored world))
    (effect : Effect backend geometry name state world action reply next after) :
    next.LeavesSpare geometry spare name (stored after) := by
  have weaker := leaves.mono (Nat.le_succ spare)
  cases effect with
  | refused | incomplete => exact weaker
  | entered reformed =>
      rw [store.asked reformed.asked]
      exact ⟨weaker.stored, reformed.grid ▸ weaker.shown⟩
  | reformed _ reformed =>
      rw [store.asked reformed.asked]
      exact ⟨weaker.stored, reformed.grid ▸ weaker.shown⟩
  | regridded _ _ answered =>
      have more := Grid.size_of_answer? answered
      have room := leaves.shown
      refine ⟨weaker.stored, ?_⟩
      dsimp only
      omega
  | unsaved _ failed =>
      rw [store.unsaved failed]
      exact weaker
  | saved _ submitted loaded =>
      apply leavesSpare_of_load? store _ loaded
      have count : state.grid.records.length = state.grid.size := by
        rw [sound.records_eq]
        exact (canonicalOrder_perm _).length_eq
      rw [store.own_of_saved submitted sound.records_owned, count]
      exact weaker.shown
  | cancelled loaded => exact leavesSpare_of_load? store weaker.stored loaded

theorem loadHasRoom_of_stored (store : backend.Stores stored)
    (room : ((stored world).filter (·.belongsTo name)).length ≤ geometry.bandSize) :
    LoadHasRoom backend geometry name world := by
  intro records answered
  apply hasRoom_of_length_le
  have none : (fresh name geometry).grid.size = 0 := rfl
  rw [none, Nat.zero_add, store.load_answer answered]
  exact room

/-- With room for one more widget, an operation has room for what it places. -/
theorem LeavesSpare.hasRoomFor (store : backend.Stores stored) (sound : state.Sound geometry name)
    (leaves : state.LeavesSpare geometry (spare + 1) name (stored world)) :
    state.HasRoomFor backend geometry name world action := by
  have records := (Nat.le_add_right _ _).trans leaves.stored
  have widgets := (Nat.le_add_right _ _).trans leaves.shown
  cases action with
  | addWidget =>
      intro _ _
      apply Grid.freeCells_nonempty_of_size_lt
      rw [sound.geometry]
      have room := leaves.shown
      omega
  | cancelEdit => exact loadHasRoom_of_stored store records
  | save =>
      intro _ middle submitted
      apply loadHasRoom_of_stored store
      rw [store.own_of_saved submitted sound.records_owned, sound.records_eq]
      exact (canonicalOrder_perm _).length_eq.trans_le widgets
  | _ => trivial

end Tab

namespace Board

variable {board changed : Board} {command : Command}

/-- What is stored for any tab, and the widgets of any tab, leave cells of the band. -/
structure LeavesSpare (spare : Nat) (records : List Dashlet) (board : Board) : Prop where
  stored : ∀ name, (records.filter (·.belongsTo name)).length + spare ≤ board.geometry.bandSize
  tabs : ∀ name state, board.tab? name = some state →
    state.LeavesSpare board.geometry spare name records

theorem LeavesSpare.mono {records : List Dashlet} {fewer : Nat}
    (leaves : board.LeavesSpare spare records) (fewer_le : fewer ≤ spare) :
    board.LeavesSpare fewer records := by
  constructor
  · intro name
    exact (Nat.add_le_add_left fewer_le _).trans (leaves.stored name)
  · intro name state known
    exact (leaves.tabs name state known).mono fewer_le

theorem LeavesSpare.setTab {before records : List Dashlet} (leaves : board.LeavesSpare spare before)
    (new : state.LeavesSpare board.geometry spare name records)
    (others : ∀ other, other ≠ name →
      records.filter (·.belongsTo other) = before.filter (·.belongsTo other)) :
    (board.setTab name state).LeavesSpare spare records := by
  constructor
  · intro other
    by_cases here : other = name
    · rw [here]
      exact new.stored
    · rw [others other here]
      exact leaves.stored other
  · intro other found known
    rcases tab?_setTab_cases known with ⟨rfl, rfl⟩ | ⟨distinct, before⟩
    · exact new
    · have old := leaves.tabs other found before
      exact ⟨(others other distinct).symm ▸ old.stored, old.shown⟩

theorem loadsHaveRoom_of_stored {names : List String} (store : backend.Stores stored)
    (room : ∀ name, ((stored world).filter (·.belongsTo name)).length ≤ geometry.bandSize) :
    LoadsHaveRoom backend geometry names world := by
  induction names generalizing world with
  | nil => trivial
  | cons name rest ih =>
      constructor
      · exact Tab.loadHasRoom_of_stored store (room name)
      · apply ih
        rw [store.load_keeps]
        exact room

/-- With room for one more widget, a command has room for all that it places. -/
theorem LeavesSpare.hasRoomFor (store : backend.Stores stored) (sound : board.Sound)
    (leaves : board.LeavesSpare (spare + 1) (stored world)) (command : Command) :
    HasRoomFor backend (board, world) command := by
  cases command with
  | loadTabs names =>
      apply loadsHaveRoom_of_stored store
      intro name
      exact (Nat.le_add_right _ _).trans (leaves.stored name)
  | act name action =>
      intro state known
      exact (leaves.tabs name state known).hasRoomFor store (sound name state known)

/-- A command uses up the room for one widget at most. -/
theorem LeavesSpare.perform? (store : backend.Stores stored) (sound : board.Sound)
    (leaves : board.LeavesSpare (spare + 1) (stored world))
    (performed : perform? backend (board, world) command = some (reply, changed, after)) :
    changed.LeavesSpare spare (stored after) := by
  have weaker := leaves.mono (Nat.le_succ spare)
  cases command with
  | loadTabs names =>
      obtain ⟨place, loaded, same⟩ := Option.map_eq_some_iff.mp performed
      rcases same with ⟨-, rfl⟩
      refine initialize?_keeps
        (fun (board : Board) (world : σ) => board.LeavesSpare spare (stored world)) ?_ weaker loaded
      intro board world name state after leaves loaded
      apply leaves.setTab (Tab.leavesSpare_of_load? store (leaves.stored name) loaded)
      intro other _
      rw [(store.loaded loaded).1]
  | act name action =>
      rcases effect_of_act? performed with ⟨-, -, rfl, rfl⟩ | ⟨state, next, known, rfl, -, effect⟩
      · exact weaker
      · have tab := sound name state known
        apply weaker.setTab ((leaves.tabs name state known).effect store tab effect)
        intro other distinct
        exact tab.others_kept store effect distinct

/-- The induction is on the commands that are left: there is still room for one widget each. -/
theorem answerAll?_isSome_of_spare {commands : List Command} (store : backend.Stores stored)
    (sound : board.Sound) (leaves : board.LeavesSpare commands.length (stored world)) :
    (answerAll? (perform? backend) (board, world) commands).isSome := by
  induction commands generalizing board world with
  | nil => rfl
  | cons command rest ih =>
      have room := leaves.hasRoomFor store sound command
      obtain ⟨⟨reply, changed, after⟩, performed⟩ :=
        Option.isSome_iff_exists.mp (perform?_isSome_iff.mpr room)
      obtain ⟨⟨replies, last⟩, answered⟩ := Option.isSome_iff_exists.mp
        (ih (sound.perform? performed) (leaves.perform? store sound performed))
      rw [answerAll?_cons_eq_some.mpr ⟨reply, _, replies, performed, answered, rfl⟩]
      rfl

/-- A run ends if the band has room for one more widget a command, beside the records that are stored for
any tab at its start. -/
theorem run?_isSome_of_stored {commands : List Command} {start : σ} (store : backend.Stores stored)
    (room : ∀ name, ((stored start).filter (·.belongsTo name)).length + commands.length ≤
      geometry.bandSize) :
    (run? backend geometry commands start).isSome := by
  apply answerAll?_isSome_of_spare store
  · intro name state known
    cases known
  · refine ⟨room, ?_⟩
    intro name state known
    cases known

/-!
### The end of a search
-/

/-- In a grid that requests have made of an empty one, the search for a free cell comes to an end exactly
if fewer widgets are in the band than it has cells.  It then finds the least free cell, within one row more
than there are widgets, and this is the cell that `nextFree?` gives.  A command on a board comes to an end
exactly if there is room for what it places, and over a store every run does for which the band has room:
for one widget a command, beside the records of any one tab. -/
theorem searches_end_while_the_band_has_room {dashboard : String} {requests : List Grid.Request}
    {responses : List Grid.Response} {grid : Grid} (backend : Backend σ)
    (reached : answerAll? Grid.answer? { dashboard, geometry } requests = some (responses, grid)) :
    ((∃ rows p, grid.searchAfter rows = .found p) ↔ grid.inBand.length < geometry.bandSize) ∧
    (∀ rows p, grid.searchAfter rows = .found p →
      IsLeast grid.freeCells p ∧ grid.searchAfter (grid.size + 1) = .found p) ∧
    (∀ p, grid.nextFree? = some p ↔ ∃ rows, grid.searchAfter rows = .found p) ∧
    (∀ place command, (perform? backend place command).isSome ↔ HasRoomFor backend place command) ∧
    (∀ stored, backend.Stores stored → ∀ (commands : List Command) (start : σ),
      (∀ name, ((stored start).filter (·.belongsTo name)).length + commands.length ≤
        geometry.bandSize) →
      (run? backend geometry commands start).isSome) := by
  have empty : ({ dashboard, geometry } : Grid).Distinct := List.nodup_nil
  have same := empty.answerAll? reached
  refine ⟨?_, ?_, ?_, fun _ _ => perform?_isSome_iff, fun _ store _ _ => run?_isSome_of_stored store⟩
  · rw [Grid.search_ends_iff, same.distinct.freeCells_nonempty_iff, same.geometry]
  · intro rows p found
    exact ⟨Grid.isLeast_of_searchAfter found, Grid.searchAfter_size found⟩
  · intro p
    constructor
    · intro search
      exact ⟨_, Grid.searchAfter_of_isLeast (Grid.nextFree?_eq_some_iff.mp search)⟩
    · intro ends
      obtain ⟨rows, found⟩ := ends
      exact Grid.nextFree?_eq_some_iff.mpr (Grid.isLeast_of_searchAfter found)

/-- Six cells at the end of all rows hold two widgets and one more for each of three commands. -/
theorem searches_end_while_the_band_has_room_last_rows :
    ∃ responses grid,
      answerAll? Grid.answer? { dashboard := "t1", geometry := { columns := 1, origin := 4294967290 } }
          [.insert ((Dashlet.overview "t1").moved ⟨4294967290, 4294967290⟩),
            .add (Dashlet.measurement "t1" "Host Health" "cpu")] = some (responses, grid) ∧
        (∃ rows p, grid.searchAfter rows = .found p) ∧
        (run? Memory.backend { columns := 1, origin := 4294967290 }
          [.loadTabs ["t1"], .act "t1" .enterEdit, .act "t1" .addWidget] .crowded).isSome := by
  have observed : (answerAll? Grid.answer?
        { dashboard := "t1", geometry := { columns := 1, origin := 4294967290 } }
        [.insert ((Dashlet.overview "t1").moved ⟨4294967290, 4294967290⟩),
          .add (Dashlet.measurement "t1" "Host Health" "cpu")]).map
      (fun reached => reached.2.inBand.length) = some 2 := by rfl
  obtain ⟨⟨responses, grid⟩, reached, widgets⟩ := Option.map_eq_some_iff.mp observed
  have size : ({ columns := 1, origin := 4294967290 } : Geometry).bandSize = 6 := by rfl
  have parts := searches_end_while_the_band_has_room Memory.backend reached
  refine ⟨responses, grid, reached, parts.1.mpr ?_, parts.2.2.2.2 _ Memory.stores _ _ ?_⟩
  · rw [widgets, size]
    decide
  · intro name
    have few := Memory.crowded.records.length_filter_le (·.belongsTo name)
    rw [size]
    exact Nat.add_le_add_right few 3

/-- The band has one cell, and a widget is there.  The search for another cell goes on for ever, and so
does the load of two records of that cell. -/
theorem full_band_is_searched_for_ever :
    (∃ grid,
      answerAll? Grid.answer? { dashboard := "t1", geometry := { origin := 4294967295 } }
          [.insert ((Dashlet.overview "t1").moved ⟨4294967295, 4294967295⟩)] = some ([.done], grid) ∧
        ∀ rows, ∃ row, grid.searchAfter rows = .before row) ∧
      perform? Memory.backend ({ geometry := { origin := 4294967295 } },
          { records :=
              [(Dashlet.overview "t1").moved ⟨4294967295, 4294967295⟩,
                (Dashlet.measurement "t1" "Host Health" "cpu").moved ⟨4294967295, 4294967295⟩] })
        (.loadTabs ["t1"]) = none := by
  refine ⟨⟨_, rfl, ?_⟩, by rfl⟩
  apply Grid.searchAfter_of_full
  rw [← Grid.nextFree?_eq_none_iff]
  rfl

end Board

end Stores

end DashletBoard
