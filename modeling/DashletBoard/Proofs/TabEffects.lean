/-
Module: DashletBoard.Proofs.TabEffects
Purpose: All that an operation can do to a tab and to the world, said once.  What runs keep is derived
  from it.
Main exports: Backend.Asked, Tab.Reformed, Tab.Effect, Tab.effect_of_act?, Board.perform?_keeps,
  Board.run?_keeps
-/
import DashletBoard.Proofs.BoardRuns
import DashletBoard.Proofs.GridRequests

namespace DashletBoard

section Effects

variable {σ : Type} {backend : Backend σ} {name : String} {world middle after : σ}

/-- The world after some lookups of measures and aggregations. -/
inductive Backend.Asked (backend : Backend σ) (world : σ) : σ → Prop where
  | nothing : backend.Asked world world
  | measures {after : σ} (asked : backend.Asked world after) (name group : String) :
      backend.Asked world (backend.measures name group after).2
  | aggregation {after : σ} (asked : backend.Asked world after) (name group measure : String) :
      backend.Asked world (backend.aggregation name group measure after).2

theorem Backend.Asked.trans (first : backend.Asked world middle)
    (second : backend.Asked middle after) : backend.Asked world after := by
  induction second with
  | nothing => exact first
  | measures _ name group ih => exact ih.measures name group
  | aggregation _ name group measure ih => exact ih.aggregation name group measure

/-- Whether an operation chooses something in the form. -/
def Action.choosesInForm : Action → Bool
  | .selectGroup _ => true
  | .selectMeasure _ => true
  | .updateForm _ => true
  | _ => false

namespace Tab

variable {state changed next : Tab}

/-!
### Choosing measures

Whatever is chosen in the form, and whatever lookup fails on the way, only the form and its measures
can change, and the build server is asked for nothing but measures and aggregations.
-/

/-- Only form and measures have changed, and only lookups were made. -/
structure Reformed (backend : Backend σ) (state next : Tab) (world after : σ) : Prop where
  grid : next.grid = state.grid
  mode : next.mode = state.mode
  loadError : next.loadError = state.loadError
  asked : backend.Asked world after

theorem Reformed.trans (first : Reformed backend state changed world middle)
    (second : Reformed backend changed next middle after) :
    Reformed backend state next world after :=
  ⟨second.grid.trans first.grid, second.mode.trans first.mode,
    second.loadError.trans first.loadError, first.asked.trans second.asked⟩

theorem Reformed.nothing : Reformed backend state state world world :=
  ⟨rfl, rfl, rfl, .nothing⟩

section Choosing

variable (backend name)

theorem selectMeasure_reformed (measure : String) (state : Tab) (world : σ) :
    Reformed backend state (state.selectMeasure backend name measure world).2.1 world
      (state.selectMeasure backend name measure world).2.2 := by
  rw [selectMeasure]
  split
  · exact ⟨rfl, rfl, rfl, .nothing⟩
  · have asked : backend.Asked world
        (backend.aggregation name state.form.measureGroup measure world).2 :=
      Backend.Asked.nothing.aggregation name state.form.measureGroup measure
    split
    next answered =>
      rw [answered] at asked
      exact ⟨rfl, rfl, rfl, asked⟩
    next failed =>
      rw [failed] at asked
      exact ⟨rfl, rfl, rfl, asked⟩

theorem askMeasures_asked (state : Tab) (world : σ) :
    backend.Asked world (state.askMeasures backend name world).2 := by
  rw [askMeasures]
  split
  · exact .nothing
  · exact Backend.Asked.nothing.measures name state.form.measureGroup

theorem refreshMeasures_reformed (state : Tab) (world : σ) :
    Reformed backend state (state.refreshMeasures backend name world).2.1 world
      (state.refreshMeasures backend name world).2.2 := by
  have asked := askMeasures_asked backend name state world
  rw [refreshMeasures]
  split
  next failed =>
    rw [failed] at asked
    exact ⟨rfl, rfl, rfl, asked⟩
  next measures middle answered =>
    rw [answered] at asked
    have cleared : Reformed backend state
        { state with measures, form := { state.form with measure := none } } world middle :=
      ⟨rfl, rfl, rfl, asked⟩
    simp only
    split
    next measure _ => exact cleared.trans (selectMeasure_reformed backend name measure _ middle)
    next => exact cleared

theorem selectGroup_reformed (group : String) (state : Tab) (world : σ) :
    Reformed backend state (state.selectGroup backend name group world).2.1 world
      (state.selectGroup backend name group world).2.2 := by
  have chosen : Reformed backend state { state with form := state.form.selectGroup group } world
      world := ⟨rfl, rfl, rfl, .nothing⟩
  exact chosen.trans (refreshMeasures_reformed backend name _ world)

theorem applyGroup_reformed (update : FormUpdate) (state : Tab) (world : σ) :
    Reformed backend state (state.applyGroup backend name update world).2.1 world
      (state.applyGroup backend name update world).2.2 := by
  rw [applyGroup]
  split
  · exact .nothing
  · split
    · exact .nothing
    · exact selectGroup_reformed backend name _ state world

theorem applyMeasure_reformed (update : FormUpdate) (state : Tab) (world : σ) :
    Reformed backend state (state.applyMeasure backend name update world).2.1 world
      (state.applyMeasure backend name update world).2.2 := by
  rw [applyMeasure]
  split
  · exact .nothing
  · exact selectMeasure_reformed backend name _ state world

theorem updateForm_reformed (update : FormUpdate) (state : Tab) (world : σ) :
    Reformed backend state (state.updateForm backend name update world).2.1 world
      (state.updateForm backend name update world).2.2 := by
  have group := applyGroup_reformed backend name update state world
  simp only [updateForm]
  split
  next failed =>
    rw [failed] at group
    exact ⟨group.grid, group.mode, group.loadError, group.asked⟩
  next changed middle chosen =>
    rw [chosen] at group
    have measure := applyMeasure_reformed backend name update changed middle
    split
    next failed =>
      rw [failed] at measure
      have both := group.trans measure
      exact ⟨both.grid, both.mode, both.loadError, both.asked⟩
    next done =>
      rw [done] at measure
      have both := group.trans measure
      exact ⟨both.grid, both.mode, both.loadError, both.asked⟩

end Choosing

/-!
### All effects
-/

/-- What an operation asks of the grid, if it asks something of it. -/
def gridRequest? (name : String) (state : Tab) : Action → Option Grid.Request
  | .addWidget => (state.form.dashlet? name).map .add
  | .removeWidget position => some (.remove position)
  | .moveWidget source target => some (.move source target)
  | .setShown position shown => some (.setShown position shown)
  | _ => none

/-- What is replied when the grid gives an answer. -/
def gridReply : Grid.Response → BoardReply
  | .failed error => .error (.grid error)
  | .position position => .ok (.placed position)
  | _ => .ok .done

/-- Everything that an operation can do.  `saved` and `cancelled` are the only effects that load, and
`saved` and `unsaved` the only ones that store. -/
inductive Effect (backend : Backend σ) (geometry : Geometry) (name : String) (state : Tab)
    (world : σ) : Action → BoardReply → Tab → σ → Prop where
  | refused {action : Action} (needed : action.needsEdit = true) (viewed : state.mode = .view) :
      Effect backend geometry name state world action (.error (.notEditing name)) state world
  | entered {reply : BoardReply} {next : Tab} {after : σ}
      (reformed : Reformed backend { state with mode := .edit } next world after) :
      Effect backend geometry name state world .enterEdit reply next after
  | reformed {action : Action} {reply : BoardReply} {next : Tab} {after : σ}
      (edited : state.mode = .edit) (reformed : Reformed backend state next world after)
      (chooses : action.choosesInForm = true) :
      Effect backend geometry name state world action reply next after
  | incomplete (edited : state.mode = .edit) (undescribed : state.form.dashlet? name = none) :
      Effect backend geometry name state world .addWidget
        (.error (.incompleteForm state.form.measureGroup)) state world
  | regridded {action : Action} {request : Grid.Request} {response : Grid.Response} {grid : Grid}
      (edited : state.mode = .edit) (asks : state.gridRequest? name action = some request)
      (answered : state.grid.answer? request = some (response, grid)) :
      Effect backend geometry name state world action (gridReply response) { state with grid } world
  | unsaved {failure : Failure} {after : σ} (edited : state.mode = .edit)
      (refused : backend.save name state.grid.records world = (.error failure, after)) :
      Effect backend geometry name state world .save (.error (.backend failure)) state after
  | saved {next : Tab} {middle after : σ} (edited : state.mode = .edit)
      (stored : backend.save name state.grid.records world = (.ok (), middle))
      (loaded : load? backend geometry name middle = some (next, after)) :
      Effect backend geometry name state world .save (.ok .done) next after
  | cancelled {next : Tab} {after : σ}
      (loaded : load? backend geometry name world = some (next, after)) :
      Effect backend geometry name state world .cancelEdit (.ok .done) next after

variable {geometry : Geometry} {action : Action} {reply : BoardReply}

theorem reload?_eq_some (reloaded : reload? backend geometry name world = some (reply, next, after)) :
    reply = .ok .done ∧ load? backend geometry name world = some (next, after) := by
  obtain ⟨⟨loaded, last⟩, load, same⟩ := Option.map_eq_some_iff.mp reloaded
  simp only [Prod.mk.injEq] at same
  rcases same with ⟨rfl, rfl, rfl⟩
  exact ⟨rfl, load⟩

theorem ofUnit_eq {outcome : Except LayoutError Unit × Tab × σ}
    (same : Outcome.ofUnit outcome = (reply, next, after)) :
    outcome.2.1 = next ∧ outcome.2.2 = after := by
  rcases outcome with ⟨error | done, state, world⟩
  · simp only [Outcome.ofUnit, Prod.mk.injEq] at same
    exact same.2
  · simp only [Outcome.ofUnit, Prod.mk.injEq] at same
    exact same.2

/-- An operation that changes the grid has the effect of the request that it makes of the grid. -/
theorem effect_of_gridOutcome {request : Grid.Request} {change : Except GridError Grid}
    (edited : state.mode = .edit) (asks : state.gridRequest? name action = some request)
    (answered : state.grid.answer? request = some (state.grid.changeAnswer change))
    (outcome : state.gridOutcome world change = (reply, next, after)) :
    Effect backend geometry name state world action reply next after := by
  cases change with
  | ok grid =>
      rcases outcome with ⟨rfl, rfl, rfl⟩
      exact .regridded edited asks answered
  | error error =>
      rcases outcome with ⟨rfl, rfl, rfl⟩
      exact .regridded edited asks answered

theorem effect_of_removeWidget {position : Position} (edited : state.mode = .edit)
    (outcome : state.gridOutcome world ((state.grid.remove position).map Prod.snd) =
      (reply, next, after)) :
    Effect backend geometry name state world (.removeWidget position) reply next after := by
  cases removal : state.grid.remove position with
  | ok removed =>
      rw [removal] at outcome
      rcases outcome with ⟨rfl, rfl, rfl⟩
      have answered : state.grid.answer? (.remove position) = some (.removed removed.1, removed.2) := by
        rw [Grid.answer?, removal]
      exact .regridded edited rfl answered
  | error error =>
      rw [removal] at outcome
      rcases outcome with ⟨rfl, rfl, rfl⟩
      have answered : state.grid.answer? (.remove position) = some (.failed error, state.grid) := by
        rw [Grid.answer?, removal]
      exact .regridded edited rfl answered

theorem effect_of_addWidget? (edited : state.mode = .edit)
    (added : state.addWidget? name world = some (reply, next, after)) :
    Effect backend geometry name state world .addWidget reply next after := by
  rw [addWidget?] at added
  cases described : state.form.dashlet? name with
  | none =>
      rw [described] at added
      simp only [Option.some.injEq, Prod.mk.injEq] at added
      rcases added with ⟨rfl, rfl, rfl⟩
      exact .incomplete edited described
  | some d =>
      rw [described] at added
      obtain ⟨⟨position, grid⟩, placed, same⟩ := Option.map_eq_some_iff.mp added
      simp only [Prod.mk.injEq] at same
      rcases same with ⟨rfl, rfl, rfl⟩
      have asks : state.gridRequest? name .addWidget = some (.add d) := by
        rw [gridRequest?, described, Option.map_some]
      have answered : state.grid.answer? (.add d) = some (.position position, grid) := by
        rw [Grid.answer?, placed, Option.map_some]
      exact .regridded edited asks answered

theorem save?_eq_some
    (saved : state.save? backend geometry name world = some (reply, next, after)) :
    (∃ failure, backend.save name state.grid.records world = (.error failure, after) ∧
        reply = .error (.backend failure) ∧ next = state) ∨
      ∃ middle, backend.save name state.grid.records world = (.ok (), middle) ∧
        reply = .ok .done ∧ load? backend geometry name middle = some (next, after) := by
  rw [save?] at saved
  split at saved
  next failure last failed =>
    simp only [Option.some.injEq, Prod.mk.injEq] at saved
    rcases saved with ⟨rfl, rfl, rfl⟩
    exact .inl ⟨failure, failed, rfl, rfl⟩
  next middle stored =>
    obtain ⟨done, loaded⟩ := reload?_eq_some saved
    exact .inr ⟨middle, stored, done, loaded⟩

/-- What needs an edit is refused while the tab is looked at. -/
theorem act?_of_view (viewed : state.mode = .view) (needed : action.needsEdit = true) :
    state.act? backend geometry name action world =
      some (.error (.notEditing name), state, world) := by
  unfold act?
  rw [if_pos (by simp [needed, viewed])]

theorem act?_save (edited : state.mode = .edit) :
    state.act? backend geometry name .save world = state.save? backend geometry name world := by
  simp [act?, edited]

theorem effect_of_save? (edited : state.mode = .edit)
    (saved : state.save? backend geometry name world = some (reply, next, after)) :
    Effect backend geometry name state world .save reply next after := by
  rcases save?_eq_some saved with ⟨failure, failed, rfl, rfl⟩ | ⟨middle, stored, rfl, loaded⟩
  · exact .unsaved edited failed
  · exact .saved edited stored loaded

/-- An operation that ends does one of these things. -/
theorem effect_of_act?
    (acted : state.act? backend geometry name action world = some (reply, next, after)) :
    Effect backend geometry name state world action reply next after := by
  unfold act? at acted
  split at acted
  next blocked =>
    simp only [Bool.and_eq_true, bne_iff_ne] at blocked
    simp only [Option.some.injEq, Prod.mk.injEq] at acted
    rcases acted with ⟨rfl, rfl, rfl⟩
    have viewed : state.mode = .view := by
      cases mode : state.mode with
      | view => rfl
      | edit => exact absurd mode blocked.2
    exact .refused blocked.1 viewed
  next allowed =>
    have edited (needed : action.needsEdit = true) : state.mode = .edit := by
      simpa [needed] using allowed
    cases action with
    | enterEdit =>
        obtain ⟨rfl, rfl⟩ := ofUnit_eq (Option.some.inj acted)
        exact .entered (refreshMeasures_reformed backend name _ world)
    | selectGroup group =>
        obtain ⟨rfl, rfl⟩ := ofUnit_eq (Option.some.inj acted)
        exact .reformed (edited rfl) (selectGroup_reformed backend name group state world) rfl
    | selectMeasure measure =>
        obtain ⟨rfl, rfl⟩ := ofUnit_eq (Option.some.inj acted)
        exact .reformed (edited rfl) (selectMeasure_reformed backend name measure state world) rfl
    | updateForm update =>
        obtain ⟨rfl, rfl⟩ := ofUnit_eq (Option.some.inj acted)
        exact .reformed (edited rfl) (updateForm_reformed backend name update state world) rfl
    | addWidget => exact effect_of_addWidget? (edited rfl) acted
    | removeWidget position =>
        exact effect_of_removeWidget (edited rfl) (Option.some.inj acted)
    | moveWidget source target =>
        exact effect_of_gridOutcome (edited rfl) rfl rfl (Option.some.inj acted)
    | setShown position shown =>
        exact effect_of_gridOutcome (edited rfl) rfl rfl (Option.some.inj acted)
    | cancelEdit =>
        obtain ⟨rfl, loaded⟩ := reload?_eq_some acted
        exact .cancelled loaded
    | save => exact effect_of_save? (edited rfl) acted

/-- A tab that is looked at is changed by the start of an edit in nothing but its mode, form and
measures. -/
theorem entered_of_act? (viewed : state.mode = .view)
    (acted : state.act? backend geometry name .enterEdit world = some (reply, next, after)) :
    Reformed backend { state with mode := .edit } next world after := by
  have looked (edited : state.mode = .edit) : False := by
    rw [viewed] at edited
    cases edited
  cases effect_of_act? acted with
  | refused needed => cases needed
  | entered reformed => exact reformed
  | reformed edited => exact (looked edited).elim
  | regridded edited => exact (looked edited).elim

end Tab

/-!
### Commands and runs

What loads and effects keep, commands keep, and so do runs.
-/

namespace Board

variable {board : Board} {state : Tab} {other : String}

@[simp] theorem tab?_setTab_self : (board.setTab name state).tab? name = some state :=
  Dictionary.get?_insert_self board.tabs name state

theorem tab?_setTab_of_ne (distinct : other ≠ name) :
    (board.setTab name state).tab? other = board.tab? other :=
  Dictionary.get?_insert_of_ne board.tabs state distinct

/-- Setting a tab to the state that it has changes nothing. -/
theorem setTab_eq_self (known : board.tab? name = some state) : board.setTab name state = board := by
  have same : board.tabs.insert name state = board.tabs := Dictionary.insert_eq_self known
  rw [setTab, same]

theorem setTab_setTab (board : Board) (name : String) (first second : Tab) :
    (board.setTab name first).setTab name second = board.setTab name second := by
  have same : (board.tabs.insert name first).insert name second = board.tabs.insert name second :=
    Dictionary.insert_insert_self board.tabs name first second
  rw [setTab, setTab, setTab, same]

theorem tab?_setTab_cases {found : Tab}
    (known : (board.setTab name state).tab? other = some found) :
    (other = name ∧ found = state) ∨ (other ≠ name ∧ board.tab? other = some found) := by
  by_cases here : other = name
  · subst here
    rw [tab?_setTab_self] at known
    exact .inl ⟨rfl, (Option.some.inj known).symm⟩
  · rw [tab?_setTab_of_ne here] at known
    exact .inr ⟨here, known⟩

/-- A board is told by its geometry and its tabs. -/
theorem ext_tab? {changed : Board} (geometry : changed.geometry = board.geometry)
    (tabs : ∀ name, changed.tab? name = board.tab? name) : changed = board := by
  cases board
  cases changed
  obtain rfl := geometry
  obtain rfl := Dictionary.ext_get? tabs
  rfl

theorem effect_of_act? {action : Action} {reply : BoardReply} {changed : Board}
    (acted : board.act? backend name action world = some (reply, changed, after)) :
    (board.tab? name = none ∧ reply = .error (.unknownTab name) ∧ changed = board ∧
        after = world) ∨
      ∃ state next, board.tab? name = some state ∧ changed = board.setTab name next ∧
        state.act? backend board.geometry name action world = some (reply, next, after) ∧
        Tab.Effect backend board.geometry name state world action reply next after := by
  rw [act?] at acted
  split at acted
  next unknown =>
    obtain ⟨rfl, rfl, rfl⟩ := Option.some.inj acted
    exact .inl ⟨unknown, rfl, rfl, rfl⟩
  next state known =>
    obtain ⟨⟨stateReply, next, last⟩, stateActed, same⟩ := Option.map_eq_some_iff.mp acted
    rcases same with ⟨rfl, rfl, rfl⟩
    exact .inr ⟨state, next, known, rfl, stateActed, Tab.effect_of_act? stateActed⟩

/-- An operation on a tab that is known is done to its state. -/
theorem act?_of_known {action : Action} (known : board.tab? name = some state) :
    board.act? backend name action world =
      (state.act? backend board.geometry name action world).map fun (answer, next, after) =>
        (answer, board.setTab name next, after) := by
  rw [act?, known]

theorem tab_of_act? {action : Action} {reply : BoardReply} {changed : Board}
    (known : board.tab? name = some state)
    (acted : board.act? backend name action world = some (reply, changed, after)) :
    ∃ next, changed = board.setTab name next ∧
      state.act? backend board.geometry name action world = some (reply, next, after) := by
  rcases effect_of_act? acted with ⟨unknown, -⟩ | ⟨found, next, same, rfl, tabActed, -⟩
  · rw [known] at unknown
    cases unknown
  · rw [known] at same
    obtain rfl := Option.some.inj same
    exact ⟨next, rfl, tabActed⟩

section Keeps

variable (kept : Board → σ → Prop)
  (loads : ∀ {board world name state after}, kept board world →
    Tab.load? backend board.geometry name world = some (state, after) →
    kept (board.setTab name state) after)
  (acts : ∀ {board world name action state reply next after}, kept board world →
    board.tab? name = some state →
    Tab.Effect backend board.geometry name state world action reply next after →
    kept (board.setTab name next) after)

include loads in
theorem initialize?_keeps {changed : Board} {names : List String} (start : kept board world)
    (performed : board.initialize? backend names world = some (changed, after)) :
    kept changed after := by
  induction names generalizing board world with
  | nil =>
      obtain ⟨rfl, rfl⟩ := Option.some.inj performed
      exact start
  | cons name rest ih =>
      rw [initialize?] at performed
      split at performed
      next => cases performed
      next loaded => exact ih (loads start loaded) performed

include loads acts in
theorem perform?_keeps {command : Command} {reply : BoardReply} {changed : Board}
    (start : kept board world)
    (performed : perform? backend (board, world) command = some (reply, changed, after)) :
    kept changed after := by
  cases command with
  | loadTabs names =>
      obtain ⟨place, loaded, same⟩ := Option.map_eq_some_iff.mp performed
      rcases same with ⟨-, rfl⟩
      exact initialize?_keeps kept loads start loaded
  | act name action =>
      rcases effect_of_act? performed with ⟨-, -, rfl, rfl⟩ | ⟨state, next, known, rfl, -, effect⟩
      · exact start
      · exact acts start known effect

include loads acts in
theorem run?_keeps {geometry : Geometry} {commands : List Command} {replies : List BoardReply}
    {last : Board} (start : kept { geometry } world)
    (run : run? backend geometry commands world = some (replies, last, after)) :
    kept last after :=
  answerAll?_keeps (fun place : Board × σ => kept place.1 place.2)
    (fun sofar performed => perform?_keeps kept loads acts sofar performed) start run

end Keeps

end Board

end Effects

end DashletBoard
