/-
Module: DashletBoard.Board
Purpose: All dashboard tabs with their states, and what a page needs to draw a tab.
Main exports: Board, Board.tab?, Board.initialize?, Board.act?, TabView, Board.view, TabView.toJson
-/
import DashletBoard.Board.Tab
import DashletBoard.Chart
import DashletBoard.EditForm.Record

namespace DashletBoard

/-- All tabs with their states, and the geometry of their grids. -/
structure Board where
  geometry : Geometry
  tabs : Dictionary Tab := .empty
deriving DecidableEq

namespace Board

/-- The state of a tab. -/
def tab? (board : Board) (name : String) : Option Tab := board.tabs.get? name

/-- Sets the state of a tab. -/
def setTab (board : Board) (name : String) (state : Tab) : Board :=
  { board with tabs := board.tabs.insert name state }

/-- Loads tabs in order; a tab that is known already is loaded anew. -/
def initialize? (backend : Backend σ) (board : Board) : List String → σ → Option (Board × σ)
  | [], world => some (board, world)
  | name :: rest, world =>
    match Tab.load? backend board.geometry name world with
    | none => none
    | some (state, world) => initialize? backend (board.setTab name state) rest world

/-- Performs an operation on a tab.  None if the operation has no end. -/
def act? (backend : Backend σ) (board : Board) (name : String) (action : Action) (world : σ) :
    Option (Except LayoutError Answer × Board × σ) :=
  match board.tab? name with
  | none => some (.error (.unknownTab name), board, world)
  | some state =>
    (state.act? backend board.geometry name action world).map fun (answer, state, world) =>
      (answer, board.setTab name state, world)

end Board

/-!
### Views
-/

/-- What a page needs to draw a tab.  Form and measures are part of it only while the tab is edited. -/
structure TabView where
  tab : String
  mode : Mode
  controlsVisible : Bool
  loadError : Option String
  form : Option EditForm
  measures : Measures
  dashlets : List DashletView
deriving DecidableEq

/-- The view of a tab. -/
def Tab.view (name : String) (state : Tab) : TabView :=
  let editing := state.mode == .edit
  { tab := name
    mode := state.mode
    controlsVisible := editing
    loadError := state.loadError
    form := if editing then some state.form else none
    measures := if editing then state.measures else .empty
    dashlets := state.grid.records.map Dashlet.view }

/-- The view of a tab that is known. -/
def Board.view (board : Board) (name : String) : Except LayoutError TabView :=
  match board.tab? name with
  | some state => .ok (state.view name)
  | none => .error (.unknownTab name)

/-- The name of a mode in views. -/
def Mode.name : Mode → String
  | .view => "view"
  | .edit => "edit"

/-- The JSON form of measures. -/
def Measures.toJson (measures : Measures) : Json :=
  .object (measures.entries.map fun entry => (entry.1, .string entry.2))

/-- The JSON form of a tab's view. -/
def TabView.toJson (view : TabView) : Json :=
  .object [("tab", .string view.tab), ("mode", .string view.mode.name),
    ("controlsVisible", .bool view.controlsVisible), ("loadError", .optional view.loadError),
    ("form", match view.form with
      | some form => form.toJson
      | none => .null),
    ("measures", Measures.toJson view.measures),
    ("dashlets", .array (view.dashlets.map DashletView.toJson))]

end DashletBoard
