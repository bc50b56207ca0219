/-
Module: DashletBoard.Proofs.BoardSoundness
Purpose: In every run, whatever the build server answers, the widgets of a tab belong to it and are at
  distinct positions, so that only such lists are stored and shown.
Main exports: Tab.Sound, BackendCall.Sound, Tab.Sound.effect, Tab.Sound.others_kept, Board.Sound,
  Board.Sound.perform?, Board.run?_sound, Board.runs_hold_owned_and_distinct_widgets
-/
import DashletBoard.Proofs.RecordStores
import DashletBoard.Proofs.TabLoading

namespace DashletBoard

namespace Tab

variable {σ : Type} {backend : Backend σ} {geometry : Geometry} {name : String} {world after : σ}
  {state next : Tab} {action : Action} {reply : BoardReply}

/-- A tab has the grid of its name, and the widgets on it belong to the tab and are at distinct
positions. -/
structure Sound (geometry : Geometry) (name : String) (state : Tab) : Prop where
  dashboard : state.grid.dashboard = name
  geometry : state.grid.geometry = geometry
  owned : ∀ d ∈ state.grid.dashlets, d.dashboard = name
  distinct : state.grid.Distinct

/-!
### Records

Widgets that belong to the tab are not changed when they are made records of it.
-/

theorem Sound.stamped (sound : state.Sound geometry name) :
    (state.grid.dashlets.map fun d => d.stamped state.grid.dashboard) = state.grid.dashlets := by
  have same : ∀ d ∈ state.grid.dashlets, d.stamped state.grid.dashboard = d := by
    intro d member
    rw [sound.dashboard, ← sound.owned d member]
    rfl
  exact (List.map_congr_left same).trans (List.map_id _)

theorem Sound.records_eq (sound : state.Sound geometry name) :
    state.grid.records = canonicalOrder state.grid.dashlets := by
  rw [Grid.records, sound.stamped]

theorem Sound.records_ascending (sound : state.Sound geometry name) :
    StrictlyAscending state.grid.records :=
  sound.distinct.records_ascending

theorem Sound.records_owned (sound : state.Sound geometry name) :
    ∀ d ∈ state.grid.records, d.dashboard = name := by
  rw [sound.records_eq]
  intro d member
  exact sound.owned d (mem_canonicalOrder.mp member)

/-!
### Keeping tabs sound
-/

theorem dashboard_of_dashlet? {form : EditForm} {d : Dashlet}
    (described : form.dashlet? name = some d) : d.dashboard = name := by
  rw [EditForm.dashlet?] at described
  split at described
  · obtain rfl := Option.some.inj described
    rfl
  · split at described
    · cases described
    · obtain rfl := Option.some.inj described
      rfl

theorem sound_ofAnswer? {answer : Except Failure (List Dashlet)}
    (loaded : ofAnswer? name geometry answer = some state) : state.Sound geometry name := by
  cases answer with
  | error failure =>
      rw [ofAnswer?_error loaded]
      exact ⟨rfl, rfl, fun d member => absurd member List.not_mem_nil, List.nodup_nil⟩
  | ok records =>
      obtain ⟨settled, -⟩ := ofAnswer?_ok loaded
      obtain ⟨dashboard, geometry, distinct, placed, dashlets, contents⟩ :=
        settleAll?_eq_some settled
      refine ⟨dashboard, geometry, fun d member => ?_, distinct List.nodup_nil⟩
      rw [dashlets, List.nil_append] at member
      have known : d.unplaced ∈ (records.filter (·.belongsTo name)).map Dashlet.unplaced :=
        contents ▸ List.mem_map_of_mem member
      obtain ⟨record, kept, same⟩ := List.mem_map.mp known
      rw [← Dashlet.dashboard_of_unplaced_eq same]
      exact eq_of_beq (List.mem_filter.mp kept).2

theorem sound_load? (loaded : load? backend geometry name world = some (state, after)) :
    state.Sound geometry name := by
  obtain ⟨loadedState, answered, same⟩ := Option.map_eq_some_iff.mp loaded
  rcases same with ⟨rfl, -⟩
  exact sound_ofAnswer? answered

theorem Sound.reformed (sound : state.Sound geometry name)
    (reformed : Reformed backend state next world after) : next.Sound geometry name := by
  constructor <;> rw [reformed.grid]
  · exact sound.dashboard
  · exact sound.geometry
  · exact sound.owned
  · exact sound.distinct

/-- A request to the grid brings in only widgets of the tab, so that the ledger of contents leaves
nothing on the grid that belongs to another tab. -/
theorem Sound.regridded {request : Grid.Request} {response : Grid.Response} {grid : Grid}
    (sound : state.Sound geometry name) (asks : state.gridRequest? name action = some request)
    (answered : state.grid.answer? request = some (response, grid)) :
    { state with grid }.Sound geometry name := by
  have same := sound.distinct.answer? answered
  refine ⟨same.dashboard.trans sound.dashboard, same.geometry.trans sound.geometry, ?_,
    same.distinct⟩
  have broughtIn : ∀ d ∈ request.broughtIn response, d.dashboard = name := by
    intro d member
    cases action with
    | addWidget =>
        obtain ⟨described, form, rfl⟩ := Option.map_eq_some_iff.mp asks
        cases response with
        | position _ =>
            rw [List.mem_singleton.mp member]
            exact dashboard_of_dashlet? form
        | _ => cases member
    | removeWidget | moveWidget | setShown =>
        obtain rfl := Option.some.inj asks
        cases member
    | _ => cases asks
  intro d member
  have listed : d.content ∈
      (grid.dashlets ++ response.takenOut).map Dashlet.content :=
    List.mem_map_of_mem (List.mem_append_left _ member)
  obtain ⟨other, source, equal⟩ :=
    List.mem_map.mp ((Grid.answer?_ledger answered).mem_iff.mp listed)
  rw [← Dashlet.dashboard_of_content_eq equal]
  rcases List.mem_append.mp source with old | new
  · exact sound.owned other old
  · exact broughtIn other new

/-- Every effect keeps a tab sound. -/
theorem Sound.effect (sound : state.Sound geometry name)
    (effect : Effect backend geometry name state world action reply next after) :
    next.Sound geometry name := by
  cases effect with
  | refused | incomplete | unsaved => exact sound
  | entered reformed =>
      have entered : { state with mode := .edit }.Sound geometry name :=
        ⟨sound.dashboard, sound.geometry, sound.owned, sound.distinct⟩
      exact entered.reformed reformed
  | reformed _ reformed => exact sound.reformed reformed
  | regridded _ asks answered => exact sound.regridded asks answered
  | saved _ _ loaded => exact sound_load? loaded
  | cancelled loaded => exact sound_load? loaded

/-- An effect leaves the records of all other tabs as they are. -/
theorem Sound.others_kept {stored : σ → List Dashlet} {other : String} (store : backend.Stores stored)
    (sound : state.Sound geometry name)
    (effect : Effect backend geometry name state world action reply next after)
    (distinct : other ≠ name) :
    (stored after).filter (·.belongsTo other) = (stored world).filter (·.belongsTo other) := by
  cases effect with
  | refused | incomplete | regridded => rfl
  | entered reformed => rw [store.asked reformed.asked]
  | reformed _ reformed => rw [store.asked reformed.asked]
  | unsaved _ failed => rw [store.unsaved failed]
  | saved _ submitted loaded =>
      rw [(store.loaded loaded).1]
      exact store.other_of_saved submitted sound.records_owned distinct
  | cancelled loaded => rw [(store.loaded loaded).1]

end Tab

/-!
### Boards and recorded calls
-/

/-- Every tab of a board is sound. -/
def Board.Sound (board : Board) : Prop :=
  ∀ name state, board.tab? name = some state → state.Sound board.geometry name

/-- Only records of a tab, in strictly ascending order, are stored for it. -/
def BackendCall.Sound : BackendCall → Prop
  | .save name records _ => StrictlyAscending records ∧ ∀ d ∈ records, d.dashboard = name
  | _ => True

section Runs

variable {σ : Type} {backend : Backend σ} {geometry : Geometry} {name : String} {board : Board}
  {state next : Tab} {action : Action} {reply : BoardReply}

theorem Board.Sound.setTab (sound : board.Sound) (new : state.Sound board.geometry name) :
    (board.setTab name state).Sound := by
  intro other found known
  rcases tab?_setTab_cases known with ⟨rfl, rfl⟩ | ⟨distinct, before⟩
  · exact new
  · exact sound other found before

/-- A command keeps all tabs sound. -/
theorem Board.Sound.perform? {changed : Board} {world after : σ} {command : Command}
    (sound : board.Sound)
    (performed : perform? backend (board, world) command = some (reply, changed, after)) :
    changed.Sound :=
  perform?_keeps (fun (board : Board) (_ : σ) => board.Sound)
    (fun sound loaded => sound.setTab (Tab.sound_load? loaded))
    (fun sound known effect => sound.setTab ((sound _ _ known).effect effect)) sound performed

theorem sound_append {calls : List BackendCall} {new : BackendCall}
    (sound : ∀ call ∈ calls, call.Sound) (newSound : new.Sound) :
    ∀ call ∈ calls ++ [new], call.Sound := by
  intro call member
  rcases List.mem_append.mp member with old | last
  · exact sound call old
  · rw [List.mem_singleton.mp last]
    exact newSound

theorem sound_of_asked {world after : σ × List BackendCall}
    (calls : ∀ call ∈ world.2, call.Sound) (asked : backend.recorded.Asked world after) :
    ∀ call ∈ after.2, call.Sound := by
  induction asked with
  | nothing => exact calls
  | @measures middle _ name group ih =>
      have new : (BackendCall.measures name group (backend.measures name group middle.1).1).Sound :=
        trivial
      exact sound_append ih new
  | @aggregation middle _ name group measure ih =>
      have new : (BackendCall.aggregation name group measure
          (backend.aggregation name group measure middle.1).1).Sound := trivial
      exact sound_append ih new

theorem sound_of_load? {world after : σ × List BackendCall}
    (calls : ∀ call ∈ world.2, call.Sound)
    (loaded : Tab.load? backend.recorded geometry name world = some (state, after)) :
    ∀ call ∈ after.2, call.Sound := by
  obtain ⟨made, -, same⟩ := Option.map_eq_some_iff.mp loaded
  rcases same with ⟨-, rfl⟩
  have new : (BackendCall.load name (backend.load name world.1).1).Sound := trivial
  exact sound_append calls new

/-- What is stored for a tab that is sound are its records, and nothing else is ever stored. -/
theorem Tab.Sound.calls {world after : σ × List BackendCall} (sound : state.Sound geometry name)
    (calls : ∀ call ∈ world.2, call.Sound)
    (effect : Tab.Effect backend.recorded geometry name state world action reply next after) :
    ∀ call ∈ after.2, call.Sound := by
  have new : (BackendCall.save name state.grid.records
      (backend.save name state.grid.records world.1).1).Sound :=
    ⟨sound.records_ascending, sound.records_owned⟩
  have submitted : ∀ call ∈ (backend.recorded.save name state.grid.records world).2.2,
      call.Sound := sound_append calls new
  cases effect with
  | refused | incomplete | regridded => exact calls
  | entered reformed => exact sound_of_asked calls reformed.asked
  | reformed _ reformed => exact sound_of_asked calls reformed.asked
  | unsaved _ failed =>
      rw [failed] at submitted
      exact submitted
  | saved _ stored loaded =>
      rw [stored] at submitted
      exact sound_of_load? submitted loaded
  | cancelled loaded => exact sound_of_load? calls loaded

/-- Whatever the build server answers, every run keeps all tabs sound, and all its calls. -/
theorem Board.run?_sound {commands : List Command} {replies : List BoardReply} {start : σ}
    {last : σ × List BackendCall}
    (run : run? backend.recorded geometry commands (start, []) = some (replies, board, last)) :
    board.Sound ∧ ∀ call ∈ last.2, call.Sound := by
  refine run?_keeps
    (fun (board : Board) (world : σ × List BackendCall) =>
      board.Sound ∧ ∀ call ∈ world.2, call.Sound) ?_ ?_ ⟨?_, ?_⟩ run
  · intro board world name state after sofar loaded
    rcases sofar with ⟨sound, calls⟩
    exact ⟨sound.setTab (Tab.sound_load? loaded), sound_of_load? calls loaded⟩
  · intro board world name action state reply next after sofar known effect
    rcases sofar with ⟨sound, calls⟩
    have tab := sound name state known
    exact ⟨sound.setTab (tab.effect effect), tab.calls calls effect⟩
  · intro name state known
    cases known
  · intro call member
    cases member

theorem Board.sound_of_run? {commands : List Command} {replies : List BoardReply} {start last : σ}
    (run : run? backend geometry commands start = some (replies, board, last)) : board.Sound := by
  obtain ⟨calls, recorded⟩ := run?_recorded run
  exact (run?_sound recorded).1

/-- In every run, whatever the build server answers to each call, every tab is held under the name of its
grid, its widgets belong to it and are at distinct positions.  So its records are its widgets in strictly
ascending order, which is the order of its view too, and every list that was ever stored is strictly
ascending and holds only records of the tab that it was stored for. -/
theorem Board.runs_hold_owned_and_distinct_widgets {commands : List Command}
    {replies : List BoardReply} {start last : σ}
    (run : run? backend geometry commands start = some (replies, board, last)) :
    (∀ name state, board.tab? name = some state →
      state.grid.dashboard = name ∧ (∀ d ∈ state.grid.dashlets, d.dashboard = name) ∧
        (state.grid.dashlets.map Dashlet.position).Nodup ∧
        (state.grid.dashlets.map fun d => d.stamped state.grid.dashboard) = state.grid.dashlets ∧
        StrictlyAscending state.grid.records ∧ (∀ d ∈ state.grid.records, d.dashboard = name) ∧
        ((state.view name).dashlets.map DashletView.position).Pairwise (· < ·)) ∧
      ∃ calls, run? backend.recorded geometry commands (start, []) =
          some (replies, board, last, calls) ∧
        ∀ name records answer, .save name records answer ∈ calls →
          StrictlyAscending records ∧ ∀ d ∈ records, d.dashboard = name := by
  obtain ⟨calls, recorded⟩ := run?_recorded run
  obtain ⟨sound, callsSound⟩ := run?_sound recorded
  refine ⟨fun name state known => ?_, calls, recorded, fun name records answer member => ?_⟩
  · have tab := sound name state known
    have viewed : (state.view name).dashlets.map DashletView.position =
        state.grid.records.map Dashlet.position := by
      simp only [Tab.view, List.map_map]
      rfl
    refine ⟨tab.dashboard, tab.owned, tab.distinct, tab.stamped, tab.records_ascending,
      tab.records_owned, ?_⟩
    rw [viewed]
    exact tab.records_ascending
  · exact callsSound _ member

/-- Records at one cell are taken apart when they are loaded, and a widget is added beside them. -/
theorem Board.runs_hold_owned_and_distinct_widgets_crowded :
    ∃ replies board last,
      run? Memory.backend {} [.loadTabs ["t1"], .act "t1" .enterEdit, .act "t1" .addWidget,
          .act "t1" .save] .crowded = some (replies, board, last) ∧
        last.records.map Dashlet.position = [⟨1, 1⟩, ⟨1, 1⟩, ⟨2, 1⟩, ⟨3, 1⟩] ∧
        ∀ name state, board.tab? name = some state → state.grid.Distinct := by
  have stored : (run? Memory.backend {} [.loadTabs ["t1"], .act "t1" .enterEdit,
      .act "t1" .addWidget, .act "t1" .save] .crowded).map
        (fun outcome => outcome.2.2.records.map Dashlet.position) =
      some [⟨1, 1⟩, ⟨1, 1⟩, ⟨2, 1⟩, ⟨3, 1⟩] := by rfl
  obtain ⟨⟨replies, board, last⟩, run, positions⟩ := Option.map_eq_some_iff.mp stored
  refine ⟨replies, board, last, run, positions, ?_⟩
  intro name state known
  exact ((runs_hold_owned_and_distinct_widgets run).1 name state known).2.2.1

end Runs

end DashletBoard
