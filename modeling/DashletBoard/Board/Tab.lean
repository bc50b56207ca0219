/-
Module: DashletBoard.Board.Tab
Purpose: The state of one dashboard tab: its grid, its mode, and its edit form.
Main exports: Mode, Tab, Tab.load?, LayoutError, Answer, Action, Tab.act?
-/
import DashletBoard.Backend
import DashletBoard.EditForm
import DashletBoard.Grid
import DashletBoard.Text.Blank

namespace DashletBoard

/-!
### States
-/

/-- A tab is looked at or edited. -/
inductive Mode where
  | view
  | edit
deriving Repr, Inhabited, DecidableEq

/-- The state of one tab.  The load error tells why its records could not be loaded. -/
structure Tab where
  grid : Grid
  mode : Mode := .view
  form : EditForm := .initial
  measures : Measures := .empty
  loadError : Option String := none
deriving DecidableEq

/-- Why an operation on a tab was refused or failed. -/
inductive LayoutError where
  | unknownTab (tab : String)
  | notEditing (tab : String)
  | incompleteForm (group : String)
  | grid (error : GridError)
  | backend (failure : Failure)
deriving Repr, DecidableEq

namespace LayoutError

/-- The text of an error. -/
def message : LayoutError → String
  | .unknownTab tab => "unknown dashboard tab '" ++ tab ++ "'"
  | .notEditing tab => "dashboard tab '" ++ tab ++ "' is not in edit mode"
  | .incompleteForm group => "no measure selected in measure group '" ++ group ++ "'"
  | .grid error => error.message
  | .backend failure => "backend request failed: " ++ failure.text

/-- The HTTP status of an error. -/
def status : LayoutError → Nat
  | .unknownTab _ => 404
  | .notEditing _ => 409
  | .incompleteForm _ => 422
  | .grid (.occupied _) => 409
  | .grid (.notFound _) => 404
  | .backend _ => 502

end LayoutError

namespace Tab

/-!
### Loading

A tab keeps the records of its own dashboard.  A record whose cell is taken moves to the first free
cell.  Nothing is placed if the records cannot be loaded; the tab then shows why.
-/

/-- A tab without widgets. -/
def fresh (name : String) (geometry : Geometry) : Tab := { grid := { dashboard := name, geometry } }

/-- Places a loaded record, at its own cell if that is free. -/
def settle? (grid : Grid) (record : Dashlet) : Option Grid :=
  match grid.insert record with
  | .ok grid => some grid
  | .error _ => (grid.add? record).map Prod.snd

/-- Places loaded records in order; none if the search for a free cell has no end. -/
def settleAll? (grid : Grid) : List Dashlet → Option Grid
  | [] => some grid
  | record :: rest =>
    match settle? grid record with
    | some grid => settleAll? grid rest
    | none => none

/-- The tab that the answer to a load makes. -/
def ofAnswer? (name : String) (geometry : Geometry) :
    Except Failure (List Dashlet) → Option Tab
  | .ok records =>
    (settleAll? (fresh name geometry).grid (records.filter (·.belongsTo name))).map fun grid =>
      { fresh name geometry with grid := grid }
  | .error failure => some { fresh name geometry with loadError := some failure.text }

/-- Loads a tab. -/
def load? (backend : Backend σ) (geometry : Geometry) (name : String) (world : σ) :
    Option (Tab × σ) :=
  let (answer, world) := backend.load name world
  (ofAnswer? name geometry answer).map fun tab => (tab, world)

/-!
### Choosing measures

Whenever the group changes, its measures are asked for, and the first one is chosen together with its
aggregation.  The chart of unit test results has no measures and asks for nothing.
-/

/-- Sets the chosen measure and its aggregation. -/
def withMeasure (state : Tab) (measure aggregation : String) : Tab :=
  { state with
    form := { state.form with measure := some measure, aggregation := Text.trim aggregation } }

/-- Chooses a measure and asks for its aggregation. -/
def selectMeasure (backend : Backend σ) (name measure : String) (state : Tab) (world : σ) :
    Except LayoutError Unit × Tab × σ :=
  if state.form.isOverview then (.ok (), state.withMeasure measure "", world)
  else
    match backend.aggregation name state.form.measureGroup measure world with
    | (.ok aggregation, world) => (.ok (), state.withMeasure measure aggregation, world)
    | (.error failure, world) => (.error (.backend failure), state, world)

/-- The measures of the chosen group. -/
def askMeasures (backend : Backend σ) (name : String) (state : Tab) (world : σ) :
    Except Failure Measures × σ :=
  if state.form.isOverview then (.ok .empty, world)
  else backend.measures name state.form.measureGroup world

/-- Asks for the measures of the chosen group and chooses the first one. -/
def refreshMeasures (backend : Backend σ) (name : String) (state : Tab) (world : σ) :
    Except LayoutError Unit × Tab × σ :=
  match state.askMeasures backend name world with
  | (.error failure, world) => (.error (.backend failure), state, world)
  | (.ok measures, world) =>
    let state := { state with measures, form := { state.form with measure := none } }
    match measures.firstKey? with
    | some measure => state.selectMeasure backend name measure world
    | none => (.ok (), state, world)

/-- Chooses a group.  The group stays chosen if its measures cannot be had. -/
def selectGroup (backend : Backend σ) (name group : String) (state : Tab) (world : σ) :
    Except LayoutError Unit × Tab × σ :=
  { state with form := state.form.selectGroup group }.refreshMeasures backend name world

/-- Chooses the group of an update, if it names another one. -/
def applyGroup (backend : Backend σ) (name : String) (update : FormUpdate) (state : Tab)
    (world : σ) : Except LayoutError Unit × Tab × σ :=
  match update.measureGroup with
  | none => (.ok (), state, world)
  | some group =>
    if group = state.form.measureGroup then (.ok (), state, world)
    else state.selectGroup backend name group world

/-- Chooses the measure of an update, if it names one. -/
def applyMeasure (backend : Backend σ) (name : String) (update : FormUpdate) (state : Tab)
    (world : σ) : Except LayoutError Unit × Tab × σ :=
  match update.measure with
  | none => (.ok (), state, world)
  | some measure => state.selectMeasure backend name measure world

/-- Applies an update as a whole: group, then measure, then the plain fields, which so win over what
the choice of a group clears.  If a lookup fails, the form and its measures are as before. -/
def updateForm (backend : Backend σ) (name : String) (update : FormUpdate) (state : Tab)
    (world : σ) : Except LayoutError Unit × Tab × σ :=
  let restored (changed : Tab) : Tab :=
    { changed with form := state.form, measures := state.measures }
  match state.applyGroup backend name update world with
  | (.error error, changed, world) => (.error error, restored changed, world)
  | (.ok (), changed, world) =>
    match changed.applyMeasure backend name update world with
    | (.error error, changed, world) => (.error error, restored changed, world)
    | (.ok (), changed, world) =>
      (.ok (), { changed with form := changed.form.fill update }, world)

end Tab

/-!
### Operations
-/

/-- An operation on one tab. -/
inductive Action where
  | enterEdit
  | selectGroup (group : String)
  | selectMeasure (measure : String)
  | updateForm (update : FormUpdate)
  | addWidget
  | removeWidget (position : Position)
  | moveWidget (source target : Position)
  | setShown (position : Position) (shown : Bool)
  | cancelEdit
  | save
deriving Repr, DecidableEq

/-- The answer to an operation that succeeded. -/
inductive Answer where
  | done
  | placed (position : Position)
deriving Repr, Inhabited, DecidableEq

/-- Whether an operation is refused for a tab that is only looked at. -/
def Action.needsEdit : Action → Bool
  | .enterEdit => false
  | .cancelEdit => false
  | _ => true

namespace Tab

/-- What an operation leaves behind: its answer, the tab and the world. -/
abbrev Outcome (σ : Type) := Except LayoutError Answer × Tab × σ

/-- The outcome of an operation that answers nothing. -/
def Outcome.ofUnit : Except LayoutError Unit × Tab × σ → Outcome σ
  | (.ok (), state, world) => (.ok .done, state, world)
  | (.error error, state, world) => (.error error, state, world)

/-- The outcome of a change of the grid. -/
def gridOutcome (state : Tab) (world : σ) : Except GridError Grid → Outcome σ
  | .ok grid => (.ok .done, { state with grid }, world)
  | .error error => (.error (.grid error), state, world)

/-- Adds the widget that the form describes at the first free cell. -/
def addWidget? (name : String) (state : Tab) (world : σ) : Option (Outcome σ) :=
  match state.form.dashlet? name with
  | none => some (.error (.incompleteForm state.form.measureGroup), state, world)
  | some d =>
    (state.grid.add? d).map fun (position, grid) =>
      (.ok (.placed position), { state with grid }, world)

/-- Loads the tab again and drops what was not stored. -/
def reload? (backend : Backend σ) (geometry : Geometry) (name : String) (world : σ) :
    Option (Outcome σ) :=
  (load? backend geometry name world).map fun (state, world) => (.ok .done, state, world)

/-- Stores the records and loads the tab again.  If they cannot be stored, the tab stays as it is. -/
def save? (backend : Backend σ) (geometry : Geometry) (name : String) (state : Tab) (world : σ) :
    Option (Outcome σ) :=
  match backend.save name state.grid.records world with
  | (.error failure, world) => some (.error (.backend failure), state, world)
  | (.ok (), world) => reload? backend geometry name world

/-- Performs an operation on the tab of a name.  None if the search for a free cell, which some
operations need, has no end. -/
def act? (backend : Backend σ) (geometry : Geometry) (name : String) (action : Action)
    (state : Tab) (world : σ) : Option (Outcome σ) :=
  if action.needsEdit && state.mode != .edit then
    some (.error (.notEditing name), state, world)
  else
    match action with
    | .enterEdit =>
      some (.ofUnit ({ state with mode := .edit }.refreshMeasures backend name world))
    | .selectGroup group => some (.ofUnit (state.selectGroup backend name group world))
    | .selectMeasure measure => some (.ofUnit (state.selectMeasure backend name measure world))
    | .updateForm update => some (.ofUnit (state.updateForm backend name update world))
    | .addWidget => state.addWidget? name world
    | .removeWidget position =>
      some (state.gridOutcome world ((state.grid.remove position).map Prod.snd))
    | .moveWidget source target => some (state.gridOutcome world (state.grid.move source target))
    | .setShown position shown => some (state.gridOutcome world (state.grid.setShown position shown))
    | .cancelEdit => reload? backend geometry name world
    | .save => state.save? backend geometry name world

end Tab

end DashletBoard
