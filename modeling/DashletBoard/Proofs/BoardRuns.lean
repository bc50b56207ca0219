/-
Module: DashletBoard.Proofs.BoardRuns
Purpose: Runs of commands on a board over a build server that may answer anything at any moment, and a
  record of the calls that a run makes.
Main exports: Command, Board.perform?, Board.run?, BackendCall, Backend.recorded, Backend.Shows,
  Board.run?_recorded
-/
import DashletBoard.Board
import DashletBoard.Proofs.Sequences

namespace DashletBoard

/-!
### Commands

The build server is a function of the state of its world.  Nothing is assumed of it: a world may hold a
script of answers, so what holds for all build servers holds for all answers to all calls.
-/

/-- What can be asked of a board. -/
inductive Command where
  | loadTabs (names : List String)
  | act (name : String) (action : Action)
deriving Repr, DecidableEq

/-- What a board replies. -/
abbrev BoardReply := Except LayoutError Answer

namespace Board

variable {σ : Type}

/-- Performs one command on a board and the world around it. -/
def perform? (backend : Backend σ) (place : Board × σ) : Command → Option (BoardReply × Board × σ)
  | .loadTabs names =>
      (place.1.initialize? backend names place.2).map fun place => (.ok .done, place)
  | .act name action => place.1.act? backend name action place.2

/-- Performs commands in order on a board that starts without tabs. -/
def run? (backend : Backend σ) (geometry : Geometry) (commands : List Command) (world : σ) :
    Option (List BoardReply × Board × σ) :=
  answerAll? (perform? backend) ({ geometry }, world) commands

end Board

/-!
### Recorded calls

A run over a build server that is recorded makes the same calls, gets the same answers and does the same
as without the record.
-/

/-- A call to the build server, with its answer. -/
inductive BackendCall where
  | load (name : String) (answer : Except Failure (List Dashlet))
  | save (name : String) (records : List Dashlet) (answer : Except Failure Unit)
  | measures (name group : String) (answer : Except Failure Measures)
  | aggregation (name group measure : String) (answer : Except Failure String)

namespace Backend

variable {ρ σ : Type}

/-- The build server that keeps a record of all calls, the latest one last. -/
def recorded (backend : Backend σ) : Backend (σ × List BackendCall) where
  load name world :=
    let (answer, after) := backend.load name world.1
    (answer, after, world.2 ++ [.load name answer])
  save name records world :=
    let (answer, after) := backend.save name records world.1
    (answer, after, world.2 ++ [.save name records answer])
  measures name group world :=
    let (answer, after) := backend.measures name group world.1
    (answer, after, world.2 ++ [.measures name group answer])
  aggregation name group measure world :=
    let (answer, after) := backend.aggregation name group measure world.1
    (answer, after, world.2 ++ [.aggregation name group measure answer])

/-- Through a view of its world, a build server shows as another one: the same answers, and worlds that
look the same. -/
structure Shows (whole : Backend ρ) (view : ρ → σ) (backend : Backend σ) : Prop where
  load : ∀ name world,
    (whole.load name world).map id view = backend.load name (view world)
  save : ∀ name records world,
    (whole.save name records world).map id view = backend.save name records (view world)
  measures : ∀ name group world,
    (whole.measures name group world).map id view = backend.measures name group (view world)
  aggregation : ∀ name group measure world,
    (whole.aggregation name group measure world).map id view =
      backend.aggregation name group measure (view world)

theorem recorded_shows (backend : Backend σ) : backend.recorded.Shows Prod.fst backend :=
  ⟨fun _ _ => rfl, fun _ _ _ => rfl, fun _ _ _ => rfl, fun _ _ _ _ => rfl⟩

end Backend

section Views

variable {ρ σ : Type} {whole : Backend ρ} {view : ρ → σ} {backend : Backend σ}

/-- The view of what an operation on a tab leaves behind. -/
def viewed {α β : Type} (view : ρ → σ) (outcome : α × β × ρ) : α × β × σ :=
  (outcome.1, outcome.2.1, view outcome.2.2)

namespace Tab

variable (looks : whole.Shows view backend)
include looks

theorem selectMeasure_viewed (name measure : String) (state : Tab) (world : ρ) :
    viewed view (state.selectMeasure whole name measure world) =
      state.selectMeasure backend name measure (view world) := by
  simp only [selectMeasure, ← looks.aggregation]
  split
  · rfl
  · rcases whole.aggregation name state.form.measureGroup measure world with ⟨answer | failure, after⟩
    · rfl
    · rfl

theorem askMeasures_viewed (name : String) (state : Tab) (world : ρ) :
    (state.askMeasures whole name world).map id view =
      state.askMeasures backend name (view world) := by
  simp only [askMeasures, ← looks.measures]
  split
  · rfl
  · rfl

theorem refreshMeasures_viewed (name : String) (state : Tab) (world : ρ) :
    viewed view (state.refreshMeasures whole name world) =
      state.refreshMeasures backend name (view world) := by
  simp only [refreshMeasures, ← askMeasures_viewed looks]
  rcases state.askMeasures whole name world with ⟨failure | measures, after⟩
  · rfl
  · simp only [Prod.map_apply, id_eq]
    cases measures.firstKey? with
    | none => rfl
    | some measure => exact selectMeasure_viewed looks name measure _ after

theorem selectGroup_viewed (name group : String) (state : Tab) (world : ρ) :
    viewed view (state.selectGroup whole name group world) =
      state.selectGroup backend name group (view world) :=
  refreshMeasures_viewed looks name _ world

theorem applyGroup_viewed (name : String) (update : FormUpdate) (state : Tab) (world : ρ) :
    viewed view (state.applyGroup whole name update world) =
      state.applyGroup backend name update (view world) := by
  simp only [applyGroup]
  cases update.measureGroup with
  | none => rfl
  | some group =>
      simp only
      split
      · rfl
      · exact selectGroup_viewed looks name group state world

theorem applyMeasure_viewed (name : String) (update : FormUpdate) (state : Tab) (world : ρ) :
    viewed view (state.applyMeasure whole name update world) =
      state.applyMeasure backend name update (view world) := by
  simp only [applyMeasure]
  cases update.measure with
  | none => rfl
  | some measure => exact selectMeasure_viewed looks name measure state world

theorem updateForm_viewed (name : String) (update : FormUpdate) (state : Tab) (world : ρ) :
    viewed view (state.updateForm whole name update world) =
      state.updateForm backend name update (view world) := by
  simp only [updateForm, ← applyGroup_viewed looks]
  rcases state.applyGroup whole name update world with ⟨error | done, changed, middle⟩
  · rfl
  · simp only [viewed, ← applyMeasure_viewed looks]
    rcases changed.applyMeasure whole name update middle with ⟨error | done, last, after⟩
    · rfl
    · rfl

theorem load?_viewed (geometry : Geometry) (name : String) (world : ρ) :
    (load? whole geometry name world).map (Prod.map id view) =
      load? backend geometry name (view world) := by
  simp only [load?, ← looks.load, Option.map_map]
  rfl

theorem reload?_viewed (geometry : Geometry) (name : String) (world : ρ) :
    (reload? whole geometry name world).map (viewed view) =
      reload? backend geometry name (view world) := by
  simp only [reload?, ← load?_viewed looks, Option.map_map]
  rfl

theorem save?_viewed (geometry : Geometry) (name : String) (state : Tab) (world : ρ) :
    (state.save? whole geometry name world).map (viewed view) =
      state.save? backend geometry name (view world) := by
  simp only [save?, ← looks.save]
  rcases whole.save name state.grid.records world with ⟨failure | done, after⟩
  · rfl
  · exact reload?_viewed looks geometry name after

omit looks in
theorem ofUnit_viewed (outcome : Except LayoutError Unit × Tab × ρ) :
    viewed view (Outcome.ofUnit outcome) = Outcome.ofUnit (viewed view outcome) := by
  rcases outcome with ⟨error | done, state, world⟩
  · rfl
  · rfl

omit looks in
theorem gridOutcome_viewed (state : Tab) (world : ρ) (change : Except GridError Grid) :
    viewed view (state.gridOutcome world change) = state.gridOutcome (view world) change := by
  cases change with
  | ok grid => rfl
  | error error => rfl

omit looks in
theorem addWidget?_viewed (name : String) (state : Tab) (world : ρ) :
    (state.addWidget? name world).map (viewed view) = state.addWidget? name (view world) := by
  simp only [addWidget?]
  cases state.form.dashlet? name with
  | none => rfl
  | some d =>
      simp only [Option.map_map]
      rfl

theorem act?_viewed (geometry : Geometry) (name : String) (action : Action) (state : Tab)
    (world : ρ) :
    (state.act? whole geometry name action world).map (viewed view) =
      state.act? backend geometry name action (view world) := by
  simp only [act?]
  split
  · rfl
  · cases action with
    | enterEdit =>
        rw [Option.map_some, ofUnit_viewed, refreshMeasures_viewed looks]
    | selectGroup group =>
        rw [Option.map_some, ofUnit_viewed, selectGroup_viewed looks]
    | selectMeasure measure =>
        rw [Option.map_some, ofUnit_viewed, selectMeasure_viewed looks]
    | updateForm update =>
        rw [Option.map_some, ofUnit_viewed, updateForm_viewed looks]
    | addWidget => exact addWidget?_viewed name state world
    | removeWidget position => rw [Option.map_some, gridOutcome_viewed]
    | moveWidget source target => rw [Option.map_some, gridOutcome_viewed]
    | setShown position shown => rw [Option.map_some, gridOutcome_viewed]
    | cancelEdit => exact reload?_viewed looks geometry name world
    | save => exact save?_viewed looks geometry name state world

end Tab

namespace Board

variable (looks : whole.Shows view backend)
include looks

theorem initialize?_viewed (board : Board) (names : List String) (world : ρ) :
    (board.initialize? whole names world).map (Prod.map id view) =
      board.initialize? backend names (view world) := by
  induction names generalizing board world with
  | nil => rfl
  | cons name rest ih =>
      simp only [initialize?, ← Tab.load?_viewed looks]
      cases Tab.load? whole board.geometry name world with
      | none => rfl
      | some loaded => exact ih (board.setTab name loaded.1) loaded.2

theorem act?_viewed (board : Board) (name : String) (action : Action) (world : ρ) :
    (board.act? whole name action world).map (viewed view) =
      board.act? backend name action (view world) := by
  simp only [act?]
  cases board.tab? name with
  | none => rfl
  | some state =>
      simp only [← Tab.act?_viewed looks, Option.map_map]
      rfl

theorem perform?_viewed (place : Board × ρ) (command : Command) :
    (perform? whole place command).map (viewed view) =
      perform? backend (Prod.map id view place) command := by
  cases command with
  | loadTabs names =>
      simp only [perform?, Prod.map_fst, Prod.map_snd, id_eq, ← initialize?_viewed looks,
        Option.map_map]
      rfl
  | act name action => exact act?_viewed looks place.1 name action place.2

/-- A run does the same over two build servers of which one shows as the other. -/
theorem run?_viewed (geometry : Geometry) (commands : List Command) (world : ρ) :
    (run? whole geometry commands world).map (viewed view) =
      run? backend geometry commands (view world) :=
  answerAll?_agrees (Prod.map id view) (fun {_ _ _ _} (_ : True) _ => trivial)
    (fun {place} command _ => perform?_viewed looks place command) commands trivial

omit looks in
/-- Every run can be recorded, without a change to what it does. -/
theorem run?_recorded {geometry : Geometry} {commands : List Command} {start last : σ}
    {replies : List BoardReply} {board : Board}
    (run : run? backend geometry commands start = some (replies, board, last)) :
    ∃ calls, run? backend.recorded geometry commands (start, []) =
      some (replies, board, last, calls) := by
  have same := run?_viewed backend.recorded_shows geometry commands (start, [])
  rw [run, Option.map_eq_some_iff] at same
  rcases same with ⟨⟨sameReplies, sameBoard, world, calls⟩, recorded, equal⟩
  simp only [viewed, Prod.mk.injEq] at equal
  rcases equal with ⟨rfl, rfl, rfl⟩
  exact ⟨calls, recorded⟩

end Board

end Views

end DashletBoard
