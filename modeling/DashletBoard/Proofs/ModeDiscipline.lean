/-
Module: DashletBoard.Proofs.ModeDiscipline
Purpose: When a tab is edited, and what is stored and loaded while it is: the mode of a tab follows from
  the commands of a run, and the build server is asked to store and load only as the mode allows.
Main exports: Turn, Board.turn?, Board.turns?, Turn.loads, turnsSinceLoad, Turn.Disciplined,
  Board.runs_keep_modes_and_save_discipline
-/
import DashletBoard.Proofs.RecordStores
import DashletBoard.Proofs.TabCalls

namespace DashletBoard

/-!
### Turns

A run is told turn by turn: each command with the board that it found, its reply, and the calls to the
build server that were made for it.
-/

/-- One command of a run, with all that an observer of board and build server sees of it. -/
structure Turn where
  before : Board
  command : Command
  reply : BoardReply
  calls : List BackendCall

namespace Board

variable {σ : Type}

/-- Performs one command and tells the turn. -/
def turn? (backend : Backend σ) (place : Board × σ) (command : Command) :
    Option (Turn × Board × σ) :=
  (perform? backend.recorded (place.1, place.2, []) command).map fun (reply, board, world, calls) =>
    ({ before := place.1, command, reply, calls }, board, world)

/-- Performs commands in order on a board that starts without tabs, and tells all turns. -/
def turns? (backend : Backend σ) (geometry : Geometry) (commands : List Command) (world : σ) :
    Option (List Turn × Board × σ) :=
  answerAll? (turn? backend) ({ geometry }, world) commands

variable {backend : Backend σ} {geometry : Geometry} {board changed : Board} {world after : σ}

theorem turn?_reply (place : Board × σ) (command : Command) :
    (turn? backend place command).map (Prod.map Turn.reply id) = perform? backend place command := by
  have same := perform?_viewed backend.recorded_shows (place.1, place.2, []) command
  rw [turn?, Option.map_map]
  exact same

theorem turn?_command {place next : Board × σ} {command : Command} {turn : Turn}
    (performed : turn? backend place command = some (turn, next)) : turn.command = command := by
  obtain ⟨_, _, same⟩ := Option.map_eq_some_iff.mp performed
  cases same
  rfl

/-- Every run can be told turn by turn. -/
theorem turns?_of_run? {commands : List Command} {replies : List BoardReply} {start last : σ}
    (run : run? backend geometry commands start = some (replies, board, last)) :
    ∃ turns, turns? backend geometry commands start = some (turns, board, last) ∧
      turns.map Turn.command = commands ∧ turns.map Turn.reply = replies :=
  answerAll?_detailed Turn.command Turn.reply turn?_command turn?_reply run

/-- The turn of an operation has the calls of the operation. -/
theorem turn?_act {name : String} {action : Action} {turn : Turn}
    (performed : turn? backend (board, world) (.act name action) = some (turn, changed, after)) :
    (board.tab? name = none ∧ changed = board ∧
        turn = ⟨board, .act name action, .error (.unknownTab name), []⟩) ∨
      ∃ state reply next calls, board.tab? name = some state ∧ changed = board.setTab name next ∧
        turn = ⟨board, .act name action, reply, calls⟩ ∧
        Tab.Calls board.geometry name state action reply next calls := by
  obtain ⟨⟨reply, next, last, calls⟩, acted, same⟩ := Option.map_eq_some_iff.mp performed
  cases same
  rcases effect_of_act? acted with ⟨unknown, rfl, rfl, ended⟩ | ⟨state, tab, known, rfl, -, effect⟩
  · cases ended
    exact .inl ⟨unknown, rfl, rfl⟩
  · obtain ⟨_, grown, made⟩ := Tab.calls_of_effect effect
    rw [List.nil_append] at grown
    cases grown
    exact .inr ⟨state, reply, tab, calls, known, rfl, rfl, made⟩

/-- The turn of loading tabs has one load for each name. -/
theorem turn?_loadTabs {names : List String} {turn : Turn}
    (performed : turn? backend (board, world) (.loadTabs names) = some (turn, changed, after)) :
    ∃ answers : List (String × Except Failure (List Dashlet)), answers.map Prod.fst = names ∧
      turn = ⟨board, .loadTabs names, .ok .done,
        answers.map fun loaded => .load loaded.1 loaded.2⟩ ∧
      (∀ name ∈ names, ∃ state, changed.tab? name = some state ∧ state.mode = .view) ∧
      ∀ name, name ∉ names → changed.tab? name = board.tab? name := by
  obtain ⟨⟨reply, next, last, calls⟩, acted, same⟩ := Option.map_eq_some_iff.mp performed
  cases same
  obtain ⟨place, loaded, same⟩ := Option.map_eq_some_iff.mp acted
  cases same
  obtain ⟨answers, order, grown⟩ := calls_of_initialize? loaded
  rw [List.nil_append] at grown
  cases grown
  exact ⟨answers, order, rfl, tab?_of_initialize? loaded⟩

end Board

/-!
### The discipline of one turn
-/

/-- Whether a turn loads a tab: all tabs that are named are loaded, and the tab of an edit when the edit is
cancelled, or saved with success. -/
def Turn.loads (turn : Turn) (name : String) : Bool :=
  match turn.command with
  | .loadTabs names => names.contains name
  | .act acted action => name == acted && action.reloads turn.reply

/-- What the build server may be asked in one turn. -/
structure Turn.Disciplined (turn : Turn) : Prop where
  /-- Tabs are loaded in the turns that are said to load them, and in no others. -/
  loads : ∀ name, turn.loads name = true ↔ ∃ answer, .load name answer ∈ turn.calls
  /-- What needs an edit is refused without a call while the tab is looked at. -/
  refuses : ∀ name action state, turn.command = .act name action →
    turn.before.tab? name = some state → state.mode = .view → action.needsEdit = true →
    turn.reply = .error (.notEditing name) ∧ turn.calls = []
  /-- Nothing is stored but by a save of a tab that is edited, and then its records. -/
  stores : ∀ name records answer, .save name records answer ∈ turn.calls →
    turn.command = .act name .save ∧ ∃ state, turn.before.tab? name = some state ∧
      state.mode = .edit ∧ records = state.grid.records
  /-- A save of a tab that is edited stores once.  If that succeeds the tab is loaded once, and if it
  fails there is no load. -/
  saves : ∀ name state, turn.command = .act name .save → turn.before.tab? name = some state →
    state.mode = .edit →
    (∃ failure, turn.reply = .error (.backend failure) ∧
        turn.calls = [.save name state.grid.records (.error failure)]) ∨
      ∃ answer, turn.reply = .ok .done ∧
        turn.calls = [.save name state.grid.records (.ok ()), .load name answer]

section Discipline

variable {board : Board} {name : String} {state next : Tab} {action : Action} {reply : BoardReply}
  {calls : List BackendCall}

theorem Turn.disciplined_loadTabs {names : List String}
    {answers : List (String × Except Failure (List Dashlet))} (order : answers.map Prod.fst = names) :
    Turn.Disciplined ⟨board, .loadTabs names, .ok .done,
      answers.map fun loaded => .load loaded.1 loaded.2⟩ := by
  constructor
  · intro name
    subst order
    simp [Turn.loads]
  · intro _ _ _ command
    cases command
  · intro _ _ _ member
    obtain ⟨_, _, same⟩ := List.mem_map.mp member
    cases same
  · intro _ _ command
    cases command

theorem Turn.disciplined_unknown (unknown : board.tab? name = none) :
    Turn.Disciplined ⟨board, .act name action, .error (.unknownTab name), []⟩ := by
  have known (state : Tab) (found : board.tab? name = some state) : False := by
    rw [unknown] at found
    cases found
  constructor
  · intro other
    simp [Turn.loads, Action.reloads_error]
  · intro _ _ state command found
    cases command
    exact (known state found).elim
  · intro _ _ _ member
    cases member
  · intro _ state command found
    cases command
    exact (known state found).elim

theorem Turn.disciplined_act (known : board.tab? name = some state)
    (made : Tab.Calls board.geometry name state action reply next calls) :
    Turn.Disciplined ⟨board, .act name action, reply, calls⟩ := by
  constructor
  · intro other
    rw [made.load_mem_iff]
    simp [Turn.loads]
  · intro _ _ found command before viewed needed
    cases command
    rw [known] at before
    cases before
    exact made.refuses viewed needed
  · intro other records answer member
    obtain ⟨rfl, rfl, edited, rfl⟩ := made.stores member
    exact ⟨rfl, state, known, edited, rfl⟩
  · intro _ found command before edited
    cases command
    rw [known] at before
    cases before
    exact made.saves rfl edited

end Discipline

/-!
### Modes
-/

/-- The turns since the last one that loaded a tab, the latest one first. -/
def turnsSinceLoad (name : String) (turns : List Turn) : List Turn :=
  turns.reverse.takeWhile fun turn => !turn.loads name

/-- The start of an edit was asked for since a tab was last loaded. -/
def EnteredSinceLoad (name : String) (turns : List Turn) : Prop :=
  ∃ turn ∈ turnsSinceLoad name turns, turn.command = .act name .enterEdit

section Modes

variable {name : String} {turns : List Turn} {turn : Turn}

theorem not_enteredSinceLoad_of_loads (loads : turn.loads name = true) :
    ¬ EnteredSinceLoad name (turns ++ [turn]) := by
  simp [EnteredSinceLoad, turnsSinceLoad, loads]

theorem enteredSinceLoad_append (quiet : turn.loads name = false) :
    EnteredSinceLoad name (turns ++ [turn]) ↔
      turn.command = .act name .enterEdit ∨ EnteredSinceLoad name turns := by
  simp [EnteredSinceLoad, turnsSinceLoad, quiet]

end Modes

namespace Board

variable {σ : Type} {backend : Backend σ} {geometry : Geometry} {board changed : Board}
  {world after : σ} {name : String} {past : List Turn} {turn : Turn} {command : Command} {state : Tab}

/-- What the turns of a run tell of a tab: whether it is known, and in which mode it is. -/
structure Told (board : Board) (turns : List Turn) (name : String) : Prop where
  known : (board.tab? name).isSome = turns.any (·.loads name)
  mode : ∀ state, board.tab? name = some state →
    (state.mode = .edit ↔ EnteredSinceLoad name turns)

theorem Told.of_loads (loads : turn.loads name = true) (known : changed.tab? name = some state)
    (viewed : state.mode = .view) : changed.Told (past ++ [turn]) name := by
  constructor
  · rw [known, List.any_append, List.any_cons, loads, Bool.true_or, Bool.or_true, Option.isSome_some]
  · intro found same
    rw [known] at same
    cases same
    rw [viewed]
    constructor
    · intro edited
      cases edited
    · intro entered
      exact (not_enteredSinceLoad_of_loads loads entered).elim

theorem any_loads_append (quiet : turn.loads name = false) :
    (past ++ [turn]).any (·.loads name) = past.any (·.loads name) := by
  rw [List.any_append, List.any_cons, quiet, List.any_nil, Bool.or_false, Bool.or_false]

/-- A turn that neither loads a tab that is known nor begins its edit tells nothing new of it. -/
theorem Told.of_elsewhere (told : board.Told past name) (quiet : turn.loads name = false)
    (same : changed.tab? name = board.tab? name)
    (noStart : ∀ state, board.tab? name = some state → turn.command ≠ .act name .enterEdit) :
    changed.Told (past ++ [turn]) name := by
  constructor
  · rw [same, any_loads_append quiet, told.known]
  · intro state known
    rw [same] at known
    rw [told.mode state known, enteredSinceLoad_append quiet, or_iff_right (noStart state known)]

/-- The tab of an operation is in the mode that its turn tells. -/
theorem Told.of_act {next : Tab} {action : Action} {reply : BoardReply} {calls : List BackendCall}
    (told : board.Told past name) (known : board.tab? name = some state)
    (made : Tab.Calls board.geometry name state action reply next calls) :
    (board.setTab name next).Told (past ++ [⟨board, .act name action, reply, calls⟩]) name := by
  have mode := made.mode
  cases loads : action.reloads reply with
  | true =>
      rw [loads, if_pos rfl] at mode
      exact .of_loads (by simp [Turn.loads, loads]) tab?_setTab_self mode
  | false =>
      have quiet : Turn.loads ⟨board, .act name action, reply, calls⟩ name = false := by
        simp [Turn.loads, loads]
      rw [loads, if_neg Bool.false_ne_true] at mode
      constructor
      · rw [tab?_setTab_self, any_loads_append quiet, ← told.known, known]
        rfl
      · intro found same
        rw [tab?_setTab_self] at same
        cases same
        rw [enteredSinceLoad_append quiet, ← told.mode state known, mode]
        by_cases start : action = .enterEdit
        · simp [start]
        · simp [start]

theorem Told.of_turn? (told : board.Told past name)
    (performed : turn? backend (board, world) command = some (turn, changed, after)) :
    changed.Told (past ++ [turn]) name := by
  cases command with
  | loadTabs names =>
      obtain ⟨answers, order, rfl, among, outside⟩ := turn?_loadTabs performed
      by_cases member : name ∈ names
      · obtain ⟨state, known, viewed⟩ := among name member
        exact .of_loads (by simp [Turn.loads, member]) known viewed
      · refine told.of_elsewhere (by simp [Turn.loads, member]) (outside name member) ?_
        intro _ _ start
        cases start
  | act acted action =>
      rcases turn?_act performed with ⟨unknown, rfl, rfl⟩ |
        ⟨state, reply, next, calls, known, rfl, rfl, made⟩
      · refine told.of_elsewhere (by simp [Turn.loads, Action.reloads_error]) rfl ?_
        intro state known start
        cases start
        rw [unknown] at known
        cases known
      · by_cases here : name = acted
        · subst here
          exact told.of_act known made
        · refine told.of_elsewhere (by simp [Turn.loads, here]) (tab?_setTab_of_ne here) ?_
          intro _ _ start
          cases start
          exact here rfl

theorem disciplined_of_turn?
    (performed : turn? backend (board, world) command = some (turn, changed, after)) :
    turn.Disciplined := by
  cases command with
  | loadTabs names =>
      obtain ⟨answers, order, rfl, -⟩ := turn?_loadTabs performed
      exact Turn.disciplined_loadTabs order
  | act acted action =>
      rcases turn?_act performed with ⟨unknown, -, rfl⟩ |
        ⟨state, reply, next, calls, known, -, rfl, made⟩
      · exact Turn.disciplined_unknown unknown
      · exact Turn.disciplined_act known made

/-- The induction is on the turns: what is told so far holds of the board so far. -/
theorem told_of_turns? {commands : List Command} {turns : List Turn} {start last : σ}
    (run : turns? backend geometry commands start = some (turns, board, last)) :
    (∀ name, board.Told turns name) ∧ ∀ turn ∈ turns, turn.Disciplined := by
  refine answerAll?_keeps_history
    (fun past (place : Board × σ) =>
      (∀ name, place.1.Told past name) ∧ ∀ turn ∈ past, turn.Disciplined)
    ?_ [] ⟨?_, ?_⟩ run
  · intro past place command turn next sofar performed
    rcases sofar with ⟨told, disciplined⟩
    exact ⟨fun name => (told name).of_turn? performed, List.forall_mem_append.mpr
      ⟨disciplined, List.forall_mem_singleton.mpr (disciplined_of_turn? performed)⟩⟩
  · intro name
    exact ⟨rfl, fun state known => nomatch known⟩
  · intro turn member
    cases member

/-- An operation that needs an edit, on a tab that is looked at, ends at once: the tab and the world are
as before, and no call is made. -/
theorem turn?_refused {action : Action} (known : board.tab? name = some state)
    (viewed : state.mode = .view) (needed : action.needsEdit = true) (world : σ) :
    turn? backend (board, world) (.act name action) =
      some (⟨board, .act name action, .error (.notEditing name), []⟩, board, world) := by
  have refused : state.act? backend.recorded board.geometry name action (world, []) =
      some (.error (.notEditing name), state, world, []) := Tab.act?_of_view viewed needed
  rw [turn?, perform?, act?, known]
  simp only [refused, Option.map_some, setTab_eq_self known]

/-- Every run, whatever the build server answers, can be told turn by turn so that at its end a tab is
edited exactly if the start of an edit was asked for since it was last loaded: by name, at the end of an
edit, or after a save that was stored.  While it is not edited, whatever needs an edit is refused without
a call.  And in every turn the build server is asked to store only by a save of a tab that is edited,
exactly once and with exactly its records; then the tab is loaded exactly once if they were stored, and
not at all if they were not. -/
theorem runs_keep_modes_and_save_discipline {commands : List Command} {replies : List BoardReply}
    {start last : σ} (run : run? backend geometry commands start = some (replies, board, last)) :
    ∃ turns, turns? backend geometry commands start = some (turns, board, last) ∧
      turns.map Turn.command = commands ∧ turns.map Turn.reply = replies ∧
      (∀ name state, board.tab? name = some state →
        (∃ turn ∈ turns, turn.loads name = true) ∧
        (state.mode = .edit ↔ EnteredSinceLoad name turns) ∧
        (state.mode = .view → ∀ action, action.needsEdit = true → ∀ world,
          turn? backend (board, world) (.act name action) =
            some (⟨board, .act name action, .error (.notEditing name), []⟩, board, world))) ∧
      ∀ turn ∈ turns, turn.Disciplined := by
  obtain ⟨turns, told, commands, replies⟩ := turns?_of_run? run
  obtain ⟨tabs, disciplined⟩ := told_of_turns? told
  refine ⟨turns, told, commands, replies, fun name state known => ⟨?_, ?_, ?_⟩, disciplined⟩
  · have loaded := (tabs name).known
    rw [known] at loaded
    exact List.any_eq_true.mp loaded.symm
  · exact (tabs name).mode state known
  · intro viewed action needed world
    exact turn?_refused known viewed needed world

/-- A widget is refused, then an edit begins, the widget is added, and the save of it fails: the turns make
two loads, nothing three times, and one call to store that no load follows. -/
theorem runs_keep_modes_and_save_discipline_rejected :
    ∃ (turns : List Turn) (board : Board) (last : Memory) (state : Tab),
      turns? Memory.backend {} [.loadTabs ["t1", "t2"], .act "t1" .addWidget, .act "t1" .enterEdit,
          .act "t1" .addWidget, .act "t1" .save]
          { Memory.crowded with script := [none, none, some "rejected"] } =
        some (turns, board, last) ∧
        turns.map (fun turn => turn.calls.length) = [2, 0, 0, 0, 1] ∧
        board.tab? "t1" = some state ∧ state.mode = .edit ∧ EnteredSinceLoad "t1" turns ∧
        ∀ turn ∈ turns, turn.Disciplined := by
  have observed : (run? Memory.backend {} [.loadTabs ["t1", "t2"], .act "t1" .addWidget,
      .act "t1" .enterEdit, .act "t1" .addWidget, .act "t1" .save]
      { Memory.crowded with script := [none, none, some "rejected"] }).map
        (fun outcome => (outcome.2.1.tab? "t1").map Tab.mode) = some (some .edit) := by rfl
  have counted : (turns? Memory.backend {} [.loadTabs ["t1", "t2"], .act "t1" .addWidget,
      .act "t1" .enterEdit, .act "t1" .addWidget, .act "t1" .save]
      { Memory.crowded with script := [none, none, some "rejected"] }).map
        (fun outcome => outcome.1.map fun turn => turn.calls.length) =
      some [2, 0, 0, 0, 1] := by rfl
  obtain ⟨⟨replies, board, last⟩, run, seen⟩ := Option.map_eq_some_iff.mp observed
  obtain ⟨state, known, edited⟩ := Option.map_eq_some_iff.mp seen
  obtain ⟨turns, told, -, -, tabs, disciplined⟩ := runs_keep_modes_and_save_discipline run
  rw [told, Option.map_some] at counted
  exact ⟨turns, board, last, state, told, Option.some.inj counted, known, edited,
    (tabs "t1" state known).2.1.mp edited, disciplined⟩

end Board

end DashletBoard
