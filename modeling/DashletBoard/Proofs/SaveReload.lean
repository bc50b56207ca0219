/-
Module: DashletBoard.Proofs.SaveReload
Purpose: A tab that is saved and loaded again has the widgets that it had, each at its place.
Main exports: Tab.reloaded, Tab.Sound.records_of_save?, Board.view_of_saved,
  Board.saved_tab_is_loaded_again
-/
import DashletBoard.Proofs.BoardSoundness

namespace DashletBoard

namespace Tab

variable {σ : Type} {backend : Backend σ} {geometry : Geometry} {name : String} {world : σ}
  {state : Tab}

/-!
### From records to widgets and back

The records of a tab that is sound are at distinct positions.  So none of them is moved when they are
placed on an empty grid, and the grid that they make has the same records.
-/

/-- The tab that has the records of a sound tab as its widgets, and nothing else of it. -/
def reloaded (name : String) (geometry : Geometry) (state : Tab) : Tab :=
  { grid := { dashboard := name, geometry, dashlets := state.grid.records } }

theorem Sound.of_reloaded (sound : state.Sound geometry name) :
    (state.reloaded name geometry).Sound geometry name := by
  constructor
  · rfl
  · rfl
  · exact sound.records_owned
  · exact sound.records_ascending.nodup

theorem Sound.records_reloaded (sound : state.Sound geometry name) :
    (state.reloaded name geometry).grid.records = state.grid.records := by
  rw [sound.of_reloaded.records_eq]
  exact sound.records_ascending.canonicalOrder_eq_self

theorem Sound.ofAnswer?_records {stored : List Dashlet} (sound : state.Sound geometry name)
    (own : stored.filter (·.belongsTo name) = state.grid.records) :
    ofAnswer? name geometry (.ok stored) = some (state.reloaded name geometry) := by
  have distinct := sound.of_reloaded.distinct
  rw [ofAnswer?, own]
  have placed : settleAll? (fresh name geometry).grid state.grid.records =
      some (state.reloaded name geometry).grid := settleAll?_of_distinct distinct
  rw [placed]
  rfl

theorem view_dashlets_eq {other : Tab} (same : other.grid.records = state.grid.records) :
    (other.view name).dashlets = (state.view name).dashlets := by
  simp only [view, same]

/-- Saving ends with the tab loaded again if both calls succeed. -/
theorem act?_save_eq {next : Tab} {middle after : σ} (edited : state.mode = .edit)
    (saved : backend.save name state.grid.records world = (.ok (), middle))
    (loaded : load? backend geometry name middle = some (next, after)) :
    state.act? backend geometry name .save world = some (.ok .done, next, after) := by
  rw [act?_save edited, save?, saved]
  simp only [reload?, loaded, Option.map_some]

/-- A tab that is saved to a store has its records again, unless it cannot be loaded. -/
theorem Sound.records_of_save? {stored : σ → List Dashlet} {next : Tab} {after : σ}
    (sound : state.Sound geometry name) (store : backend.Stores stored)
    (saved : state.save? backend geometry name world = some (.ok .done, next, after))
    (readable : next.loadError = none) : next.grid.records = state.grid.records := by
  obtain ⟨failure, -, refused, -⟩ | ⟨middle, taken, -, loaded⟩ := save?_eq_some saved
  · cases refused
  · obtain ⟨-, made | ⟨failure, made⟩⟩ := store.loaded loaded
    · rw [sound.ofAnswer?_records (store.own_of_saved taken sound.records_owned)] at made
      obtain rfl := Option.some.inj made
      exact sound.records_reloaded
    · rw [ofAnswer?_error made] at readable
      cases readable

end Tab

section Runs

variable {σ : Type} {backend : Backend σ} {geometry : Geometry} {commands : List Command}
  {replies : List BoardReply} {board : Board} {start last world middle after : σ} {name : String}
  {state : Tab} {stored : σ → List Dashlet} {records : List Dashlet}

theorem Board.view_setTab_self (board : Board) (name : String) (state : Tab) :
    (board.setTab name state).view name = .ok (state.view name) := by
  rw [view, tab?_setTab_self]

/-- A tab that is saved to a store looks as before, apart from its mode, unless it cannot be loaded again. -/
theorem Board.view_of_saved {saved : Board} (sound : board.Sound)
    (store : backend.Stores stored) (known : board.tab? name = some state) (edited : state.mode = .edit)
    (acted : board.act? backend name .save world = some (.ok .done, saved, after)) :
    ∃ view, saved.view name = .ok view ∧
      (view.loadError = none → view.dashlets = (state.view name).dashlets) := by
  obtain ⟨next, rfl, tabActed⟩ := tab_of_act? known acted
  rw [Tab.act?_save edited] at tabActed
  refine ⟨next.view name, view_setTab_self board name next, fun readable => ?_⟩
  exact Tab.view_dashlets_eq ((sound name state known).records_of_save? store tabActed readable)

/-- A tab that is edited, on a board that any run has left, is saved to a store of records, whatever is
stored by then.  If the store takes the records and answers to the load that follows, then it has the
records of the tab and no others for it, and of all other tabs what it had.  The tab has the records that
it had and looks as it did, but is not edited any more. -/
theorem Board.saved_tab_is_loaded_again (store : backend.Stores stored)
    (run : run? backend geometry commands start = some (replies, board, last))
    (known : board.tab? name = some state) (edited : state.mode = .edit)
    (saved : backend.save name state.grid.records world = (.ok (), middle))
    (loaded : backend.load name middle = (.ok records, after)) :
    ∃ next,
      board.act? backend name .save world = some (.ok .done, board.setTab name next, after) ∧
        (stored after).filter (·.belongsTo name) = state.grid.records ∧
        ((stored after).filter fun d => !d.belongsTo name) =
          ((stored world).filter fun d => !d.belongsTo name) ∧
        next.grid.records = state.grid.records ∧
        (next.view name).dashlets = (state.view name).dashlets ∧
        next.mode = .view ∧ next.form = .initial ∧ next.measures = .empty ∧
        next.loadError = none := by
  have sound : state.Sound board.geometry name := sound_of_run? run name state known
  have held : stored after = stored middle := by
    have kept := store.load_keeps name middle
    rwa [loaded] at kept
  have answered : records = stored middle := store.load_answer (congrArg Prod.fst loaded)
  have own := store.own_of_saved saved sound.records_owned
  have load : Tab.load? backend board.geometry name middle =
      some (state.reloaded name board.geometry, after) := by
    rw [Tab.load?, loaded, answered]
    simp only [sound.ofAnswer?_records own, Option.map_some]
  have acted : board.act? backend name .save world =
      some (.ok .done, board.setTab name (state.reloaded name board.geometry), after) := by
    rw [act?, known]
    simp only [Tab.act?_save_eq edited saved load, Option.map_some]
  refine ⟨state.reloaded name board.geometry, acted, ?_, ?_, sound.records_reloaded,
    Tab.view_dashlets_eq sound.records_reloaded, rfl, rfl, rfl, rfl⟩
  · rw [held]
    exact own
  · rw [held]
    exact store.foreign_of_saved saved sound.records_owned

/-- The three widgets of an edited tab, two of which shared a cell when they were loaded. -/
theorem Board.saved_tab_is_loaded_again_crowded :
    ∃ (board : Board) (world after : Memory) (state next : Tab),
      (∃ replies, run? Memory.backend {} [.loadTabs ["t1"], .act "t1" .enterEdit,
          .act "t1" .addWidget] .crowded = some (replies, board, world)) ∧
        board.tab? "t1" = some state ∧ state.grid.size = 3 ∧
        board.act? Memory.backend "t1" .save world =
          some (.ok .done, board.setTab "t1" next, after) ∧
        after.records.filter (·.belongsTo "t1") = state.grid.records := by
  have observed : (run? Memory.backend {} [.loadTabs ["t1"], .act "t1" .enterEdit,
      .act "t1" .addWidget] .crowded).map
        (fun outcome => ((outcome.2.1.tab? "t1").map fun state => (state.mode, state.grid.size),
          outcome.2.2.script)) =
      some (some (.edit, 3), []) := by rfl
  obtain ⟨⟨replies, board, world⟩, run, seen⟩ := Option.map_eq_some_iff.mp observed
  obtain ⟨tab, ended⟩ := Prod.mk.inj seen
  obtain ⟨state, known, shape⟩ := Option.map_eq_some_iff.mp tab
  obtain ⟨edited, size⟩ := Prod.mk.inj shape
  have saved := Memory.save_of_script_nil "t1" state.grid.records ended
  obtain ⟨next, acted, own, -⟩ :=
    saved_tab_is_loaded_again Memory.stores run known edited saved
      (Memory.load_of_script_nil "t1" ended)
  exact ⟨board, world, _, state, next, ⟨replies, run⟩, known, size, acted, own⟩

end Runs

end DashletBoard
