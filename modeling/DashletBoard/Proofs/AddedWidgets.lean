/-
Module: DashletBoard.Proofs.AddedWidgets
Purpose: A widget that is added to a tab becomes one record more of those that a save gives to the build
  server, the one that the form describes, at the least free cell.
Main exports: EditForm.IsIncomplete, EditForm.Describes, EditForm.dashlet?_eq_none_iff,
  EditForm.describes_of_dashlet?, Tab.Sound.records_added, Board.Submits, Board.submits_of_edited,
  Board.added_widget_is_saved_beside_the_others
-/
import DashletBoard.Proofs.EndingCommands

namespace DashletBoard

/-!
### The record that a form describes
-/

namespace EditForm

variable {form : EditForm} {name : String} {p : Position} {d : Dashlet}

/-- A chart of a measure is chosen, but no measure. -/
def IsIncomplete (form : EditForm) : Prop :=
  form.measureGroup ≠ overviewGroup ∧ (form.measure = none ∨ form.measure = some "")

/-- The record of a new widget in full.  The chart of unit test results has nothing of the measure and
the aggregation that the form may still hold. -/
inductive Describes (form : EditForm) (name : String) (p : Position) : Dashlet → Prop where
  | overview (group : form.measureGroup = overviewGroup) :
      Describes form name p
        { dashboard := name
          id := "unittest_overview"
          position := p
          shown := true
          chartDashlet := ""
          measure := ""
          customName := form.customName
          customBuildCount := form.customBuildCount
          aggregation := ""
          description := none
          html := none }
  | measurement {measure : String} (group : form.measureGroup ≠ overviewGroup)
      (chosen : form.measure = some measure) (filled : measure ≠ "") :
      Describes form name p
        { dashboard := name
          id := measure
          position := p
          shown := true
          chartDashlet := form.measureGroup
          measure := measure
          customName := form.customName
          customBuildCount := form.customBuildCount
          aggregation := form.aggregation
          description := none
          html := none }

theorem isOverview_iff : form.isOverview = true ↔ form.measureGroup = overviewGroup := beq_iff_eq

theorem dashlet?_eq_none_iff : form.dashlet? name = none ↔ form.IsIncomplete := by
  rw [dashlet?, IsIncomplete]
  split
  next chosen => simp [isOverview_iff.mp chosen]
  next other =>
    rw [isOverview_iff] at other
    cases form.measure with
    | none => simp [other]
    | some measure => by_cases empty : measure = "" <;> simp [other, empty, Option.filter]

theorem exists_dashlet? (name : String) (complete : ¬ form.IsIncomplete) :
    ∃ d, form.dashlet? name = some d :=
  Option.ne_none_iff_exists'.mp (mt dashlet?_eq_none_iff.mp complete)

theorem describes_of_dashlet? (described : form.dashlet? name = some d) :
    form.Describes name p (d.moved p) := by
  rw [dashlet?] at described
  split at described
  next chosen =>
    obtain rfl := Option.some.inj described
    exact .overview (isOverview_iff.mp chosen)
  next other =>
    rw [isOverview_iff] at other
    split at described
    next => cases described
    next measure kept =>
      obtain ⟨chosen, filled⟩ := Option.filter_eq_some_iff.mp kept
      have named : measure ≠ "" := by simpa using filled
      obtain rfl := Option.some.inj described
      exact .measurement other chosen named

end EditForm

/-!
### Saves

What a save gives to the build server is told by how it goes on with any build server, also with one that
keeps a record of its calls.
-/

section Boards

variable {σ : Type} {backend : Backend σ} {geometry : Geometry} {board : Board} {state : Tab}
  {name : String} {world : σ}

namespace Tab

theorem act?_addWidget (edited : state.mode = .edit) :
    state.act? backend geometry name .addWidget world = state.addWidget? name world := by
  simp [act?, edited]

/-- A widget that is added is placed at the least free cell, and nothing else changes. -/
theorem addWidget?_of_described {d : Dashlet} {reply : BoardReply} {next : Tab} {after : σ}
    (described : state.form.dashlet? name = some d)
    (added : state.addWidget? name world = some (reply, next, after)) :
    ∃ p, reply = .ok (.placed p) ∧ after = world ∧ IsLeast state.grid.freeCells p ∧
      next = { state with grid := state.grid.placed (d.moved p) } := by
  rw [addWidget?, described] at added
  obtain ⟨⟨p, grid⟩, placed, same⟩ := Option.map_eq_some_iff.mp added
  obtain ⟨search, rfl⟩ := Grid.add?_eq_some_iff.mp placed
  rcases same with ⟨rfl, rfl, rfl⟩
  exact ⟨p, rfl, rfl, Grid.nextFree?_eq_some_iff.mp search, rfl⟩

/-- The records of a tab stay as they are, on both sides of the one for a new widget. -/
theorem Sound.records_added {d : Dashlet} {p : Position} (sound : state.Sound geometry name)
    (described : state.form.dashlet? name = some d) (free : p ∈ state.grid.freeCells) :
    ∃ front back, state.grid.records = front ++ back ∧
      (state.grid.placed (d.moved p)).records = front ++ d.moved p :: back ∧
      StrictlyAscending (front ++ d.moved p :: back) := by
  have owned : (d.moved p).stamped state.grid.dashboard = d.moved p := by
    rw [sound.dashboard, ← dashboard_of_dashlet? described]
    rfl
  have unoccupied : state.grid.isOccupied (d.moved p).position = false := free.2
  obtain ⟨front, back, before, placed⟩ := sound.distinct.records_placed unoccupied
  have ascending := (sound.distinct.placed unoccupied).records_ascending
  rw [owned] at placed
  rw [placed] at ascending
  exact ⟨front, back, before, placed, ascending⟩

end Tab

namespace Board

/-- A save of a tab gives these records to the build server.  If they cannot be stored the board stays as
it is, or else the tab is loaded again. -/
def Submits (board : Board) (name : String) (records : List Dashlet) : Prop :=
  ∀ (ρ : Type) (backend : Backend ρ) (world : ρ),
    board.act? backend name .save world =
      match backend.save name records world with
      | (.error failure, after) => some (.error (.backend failure), board, after)
      | (.ok (), after) =>
          (Tab.load? backend board.geometry name after).map fun (state, last) =>
            (.ok .done, board.setTab name state, last)

theorem submits_of_edited (known : board.tab? name = some state) (edited : state.mode = .edit) :
    board.Submits name state.grid.records := by
  intro ρ backend world
  rw [act?_of_known known, Tab.act?_save edited, Tab.save?]
  rcases backend.save name state.grid.records world with ⟨failure | done, after⟩
  · simp [setTab_eq_self known]
  · simp [Tab.reload?, Function.comp_def]

theorem act?_addWidget_of_incomplete (known : board.tab? name = some state)
    (edited : state.mode = .edit) (incomplete : state.form.IsIncomplete) :
    board.act? backend name .addWidget world =
      some (.error (.incompleteForm state.form.measureGroup), board, world) := by
  rw [act?_of_known known, Tab.act?_addWidget edited, Tab.addWidget?,
    EditForm.dashlet?_eq_none_iff.mpr incomplete]
  simp [setTab_eq_self known]

/-- With a form that is not incomplete, only the grid of the tab changes, by one widget. -/
theorem placed_of_act? {d : Dashlet} {reply : BoardReply} {changed : Board} {after : σ}
    (known : board.tab? name = some state) (edited : state.mode = .edit)
    (described : state.form.dashlet? name = some d)
    (acted : board.act? backend name .addWidget world = some (reply, changed, after)) :
    ∃ p, reply = .ok (.placed p) ∧ after = world ∧ IsLeast state.grid.freeCells p ∧
      changed = board.setTab name { state with grid := state.grid.placed (d.moved p) } := by
  obtain ⟨next, rfl, tabActed⟩ := tab_of_act? known acted
  rw [Tab.act?_addWidget edited] at tabActed
  obtain ⟨p, placed, unchanged, least, rfl⟩ := Tab.addWidget?_of_described described tabActed
  exact ⟨p, placed, unchanged, least, rfl⟩

/-- A tab that is edited, on a board that any run has left, is asked to add a widget.  It refuses this exactly
if a measure is needed and none is chosen, and then nothing changes.  Otherwise it comes to an end exactly if
there is a free cell.  The widget gets the least one, and a save right after it gives the build server the
records that it would have given before, in strictly ascending order with the one that the form describes,
whatever the form holds beside that. -/
theorem added_widget_is_saved_beside_the_others {commands : List Command} {replies : List BoardReply}
    {start last : σ} (run : run? backend geometry commands start = some (replies, board, last))
    (known : board.tab? name = some state) (edited : state.mode = .edit) (world : σ) :
    ((∃ group changed after, board.act? backend name .addWidget world =
        some (.error (.incompleteForm group), changed, after)) ↔ state.form.IsIncomplete) ∧
      (state.form.IsIncomplete → board.act? backend name .addWidget world =
        some (.error (.incompleteForm state.form.measureGroup), board, world)) ∧
      (¬ state.form.IsIncomplete →
        ((board.act? backend name .addWidget world).isSome ↔ state.grid.freeCells.Nonempty) ∧
        ∀ reply changed after,
          board.act? backend name .addWidget world = some (reply, changed, after) →
          ∃ p front new back, reply = .ok (.placed p) ∧ after = world ∧
            IsLeast state.grid.freeCells p ∧ state.form.Describes name p new ∧
            board.Submits name (front ++ back) ∧ changed.Submits name (front ++ new :: back) ∧
            StrictlyAscending (front ++ new :: back)) := by
  have sound : state.Sound board.geometry name := sound_of_run? run name state known
  have refused : state.form.IsIncomplete → board.act? backend name .addWidget world =
      some (.error (.incompleteForm state.form.measureGroup), board, world) :=
    act?_addWidget_of_incomplete known edited
  refine ⟨⟨?_, fun incomplete => ⟨_, _, _, refused incomplete⟩⟩, refused, fun complete => ?_⟩
  · rintro ⟨group, changed, after, acted⟩
    by_contra complete
    obtain ⟨d, described⟩ := EditForm.exists_dashlet? name complete
    obtain ⟨p, placed, -⟩ := placed_of_act? known edited described acted
    cases placed
  · obtain ⟨d, described⟩ := EditForm.exists_dashlet? name complete
    constructor
    · rw [act?_of_known known, Option.isSome_map, Tab.act?_addWidget edited, Tab.addWidget?_isSome_iff,
        described]
      exact ⟨fun room => room rfl, fun room _ => room⟩
    · intro reply changed after acted
      obtain ⟨p, rfl, rfl, least, rfl⟩ := placed_of_act? known edited described acted
      obtain ⟨front, back, before, added, ascending⟩ := sound.records_added described least.1
      have submitted := submits_of_edited known edited
      have submittedAfter :
          (board.setTab name { state with grid := state.grid.placed (d.moved p) }).Submits name
            (state.grid.placed (d.moved p)).records :=
        submits_of_edited tab?_setTab_self edited
      rw [before] at submitted
      rw [added] at submittedAfter
      exact ⟨p, front, d.moved p, back, rfl, rfl, least, EditForm.describes_of_dashlet? described,
        submitted, submittedAfter, ascending⟩

/-- The chart of unit test results is added, although a measure and its aggregation are in the form. -/
theorem added_widget_is_saved_beside_the_others_stale :
    ∃ (board changed : Board) (last : Memory) (front back : List Dashlet),
      (∃ replies, run? Memory.backend {} [.loadTabs ["t1"], .act "t1" .enterEdit,
          .act "t1" (.updateForm
            { measure := some "cpu", aggregation := some "Max", customName := some "Tests" })]
          .measured = some (replies, board, last)) ∧
      board.act? Memory.backend "t1" .addWidget last =
        some (.ok (.placed ⟨3, 1⟩), changed, last) ∧
      board.Submits "t1" (front ++ back) ∧
      changed.Submits "t1"
        (front ++ { Dashlet.overview "t1" with position := ⟨3, 1⟩, customName := "Tests" } :: back) := by
  have observed : (run? Memory.backend {} [.loadTabs ["t1"], .act "t1" .enterEdit,
      .act "t1" (.updateForm
        { measure := some "cpu", aggregation := some "Max", customName := some "Tests" })]
      .measured).map
        (fun outcome => ((outcome.2.1.tab? "t1").map fun state => (state.mode, state.form),
          (outcome.2.1.act? Memory.backend "t1" .addWidget outcome.2.2).map Prod.fst)) =
      some (some (.edit,
        { measureGroup := "Unit Test Overview", measure := some "cpu", customName := "Tests",
          aggregation := "Max" }), some (.ok (.placed ⟨3, 1⟩))) := by rfl
  obtain ⟨⟨replies, board, last⟩, run, seen⟩ := Option.map_eq_some_iff.mp observed
  obtain ⟨tab, replied⟩ := Prod.mk.inj seen
  obtain ⟨state, known, shape⟩ := Option.map_eq_some_iff.mp tab
  obtain ⟨edited, form⟩ := Prod.mk.inj shape
  obtain ⟨⟨reply, changed, after⟩, acted, rfl⟩ := Option.map_eq_some_iff.mp replied
  have parts := added_widget_is_saved_beside_the_others run known edited last
  have complete : ¬ state.form.IsIncomplete := fun incomplete => incomplete.1 (by rw [form]; rfl)
  obtain ⟨p, front, new, back, placed, unchanged, least, describes, before, added, -⟩ :=
    (parts.2.2 complete).2 _ changed after acted
  cases placed
  obtain rfl := unchanged
  rw [form] at describes
  cases describes with
  | overview group => exact ⟨board, changed, after, front, back, ⟨replies, run⟩, acted, before, added⟩
  | measurement other => exact absurd rfl other

end Board

end Boards

end DashletBoard
