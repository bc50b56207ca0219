/-
Module: DashletBoard.Proofs.WidgetKinds
Purpose: Whether a new widget is drawn as the chart that was chosen.  The kind of a widget is not stored but
  told by its id, which for a chart of a measure is whatever name the measure has.
Main exports: EditForm.TakesReservedId, DashletView.DrawsOverview, DashletView.DrawsMeasure, EditForm.Drawn,
  Board.drawn_of_act?, Board.added_widgets_are_drawn_as_chosen_iff, Board.measure_is_drawn_as_overview
-/
import DashletBoard.Proofs.AddedWidgets
import DashletBoard.Proofs.ChartUrls
import DashletBoard.Proofs.SaveReload

namespace DashletBoard

/-!
### Kinds
-/

/-- A measure is chosen that has the id of the chart of unit test results as its name. -/
def EditForm.TakesReservedId (form : EditForm) : Prop :=
  form.measureGroup ≠ overviewGroup ∧ form.measure = some Dashlet.overviewId

theorem Dashlet.kind_eq_overview_iff {d : Dashlet} : d.kind = .unitTestOverview ↔ d.id = overviewId := by
  rw [kind]
  split
  next reserved => simp [reserved]
  next other => simp [other]

theorem Dashlet.kind_eq_measurement_iff {d : Dashlet} : d.kind = .measurement ↔ d.id ≠ overviewId := by
  rw [kind]
  split
  next reserved => simp [reserved]
  next other => simp [other]

/-!
### Drawings
-/

/-- A widget is drawn as the chart of unit test results. -/
structure DashletView.DrawsOverview (view : DashletView) : Prop where
  kind : view.kind = .unitTestOverview
  thumbnail : ∃ query, view.thumbnailUrl = "./testRunGraph?" ++ query
  lightbox : ∃ query, view.lightboxUrl = "./testRunGraph?" ++ query
  title : view.title = none

/-- A widget is drawn as the chart of a measure of a group. -/
structure DashletView.DrawsMeasure (view : DashletView) (group measure : String) : Prop where
  kind : view.kind = .measurement
  thumbnail : ∃ query, view.thumbnailUrl = "./summarizerGraph?" ++ query
  lightbox : ∃ query, view.lightboxUrl = "./summarizerGraph?" ++ query
  title : view.title = some ("source: " ++ group ++ "-" ++ measure ++ "\n")

/-- How the new widget of a form is drawn. -/
inductive EditForm.Drawn (form : EditForm) (view : DashletView) : Prop where
  | overview (group : form.measureGroup = overviewGroup) (draws : view.DrawsOverview)
  | reserved (takes : form.TakesReservedId) (draws : view.DrawsOverview)
  | measure {measure : String} (group : form.measureGroup ≠ overviewGroup)
      (chosen : form.measure = some measure) (own : measure ≠ Dashlet.overviewId)
      (draws : view.DrawsMeasure form.measureGroup measure)

namespace Dashlet

variable {d : Dashlet} {form : EditForm} {name : String} {p : Position}

theorem exists_chartUrl_eq (d : Dashlet) (size : ChartSize) :
    ∃ query, d.chartUrl size = d.kind.chartPath ++ "?" ++ query := by
  refine ⟨String.ofList (d.chartQuery size), ?_⟩
  apply String.toList_inj.mp
  simp [toList_chartUrl]

theorem drawsOverview_view (reserved : d.id = overviewId) : d.view.DrawsOverview := by
  have overview : d.kind = .unitTestOverview := kind_eq_overview_iff.mpr reserved
  have charts (size : ChartSize) : ∃ query, d.chartUrl size = "./testRunGraph?" ++ query := by
    have chart := d.exists_chartUrl_eq size
    rwa [overview] at chart
  refine ⟨overview, charts .thumbnail, charts .lightbox, ?_⟩
  rw [view, title?, overview]

theorem drawsMeasure_view (own : d.id ≠ overviewId) (bare : d.description = none) :
    d.view.DrawsMeasure d.chartDashlet d.measure := by
  have measurement : d.kind = .measurement := kind_eq_measurement_iff.mpr own
  have charts (size : ChartSize) : ∃ query, d.chartUrl size = "./summarizerGraph?" ++ query := by
    have chart := d.exists_chartUrl_eq size
    rwa [measurement] at chart
  refine ⟨measurement, charts .thumbnail, charts .lightbox, ?_⟩
  simp [view, title?, measurement, bare]

/-- The record that a form describes is drawn as chosen, unless the measure takes the reserved id. -/
theorem drawn_of_describes (describes : form.Describes name p d) : form.Drawn d.view := by
  cases describes with
  | overview group => exact .overview group (drawsOverview_view rfl)
  | @measurement measure group chosen _ =>
      by_cases reserved : measure = overviewId
      · exact .reserved ⟨group, chosen.trans (congrArg some reserved)⟩ (drawsOverview_view reserved)
      · exact .measure group chosen reserved (drawsMeasure_view reserved rfl)

theorem kind_of_describes (describes : form.Describes name p d) :
    d.kind = .unitTestOverview ↔
      form.measureGroup = EditForm.overviewGroup ∨ form.TakesReservedId := by
  rw [kind_eq_overview_iff]
  cases describes with
  | overview group => exact iff_of_true rfl (.inl group)
  | measurement group chosen _ => simp [EditForm.TakesReservedId, group, chosen]

end Dashlet

/-!
### Boards

A new widget is drawn between those that were there, and a save to a store changes nothing about that.
-/

section Boards

variable {σ : Type} {backend : Backend σ} {geometry : Geometry} {board : Board} {state : Tab}
  {name : String} {world : σ}

namespace Board

/-- A widget that is added is drawn as its form tells, between the widgets that were there. -/
theorem drawn_of_act? {d : Dashlet} {p : Position} {changed : Board} {after : σ} (sound : board.Sound)
    (known : board.tab? name = some state) (edited : state.mode = .edit)
    (described : state.form.dashlet? name = some d)
    (acted : board.act? backend name .addWidget world = some (.ok (.placed p), changed, after)) :
    ∃ next front shown back, changed = board.setTab name next ∧ next.mode = .edit ∧
      shown.position = p ∧ state.form.Drawn shown ∧ (state.view name).dashlets = front ++ back ∧
      (next.view name).dashlets = front ++ shown :: back := by
  obtain ⟨place, placed, -, least, rfl⟩ := placed_of_act? known edited described acted
  cases placed
  obtain ⟨front, back, before, added, -⟩ := (sound name state known).records_added described least.1
  refine ⟨_, front.map Dashlet.view, (d.moved p).view, back.map Dashlet.view, rfl, edited, rfl,
    Dashlet.drawn_of_describes (EditForm.describes_of_dashlet? described), ?_, ?_⟩
  · rw [Tab.view, before, List.map_append]
  · rw [Tab.view, added, List.map_append, List.map_cons]

/-- Whatever a form describes a widget by: the widget is of the kind that the chosen group stands for, unless
a measure of another group has the reserved id as its name, and then it is not.  When a tab with this form is
asked to add a widget, on a board that any run has left, the widget is drawn between those that were there,
as its kind tells.  So it is again when the tab is saved to a store and loaded again. -/
theorem added_widgets_are_drawn_as_chosen_iff {form : EditForm} {d : Dashlet}
    (described : form.dashlet? name = some d) :
    ((d.kind = .unitTestOverview ↔ form.measureGroup = EditForm.overviewGroup) ↔
        ¬ form.TakesReservedId) ∧
      form.Drawn d.view ∧
      ∀ commands replies board start last state world p changed after,
        run? backend geometry commands start = some (replies, board, last) →
        board.tab? name = some state → state.mode = .edit → state.form = form →
        board.act? backend name .addWidget world = some (.ok (.placed p), changed, after) →
        ∃ front shown back, shown.position = p ∧ form.Drawn shown ∧
          (state.view name).dashlets = front ++ back ∧
          (∃ view, changed.view name = .ok view ∧ view.dashlets = front ++ shown :: back) ∧
          ∀ stored again saved later, backend.Stores stored →
            changed.act? backend name .save again = some (.ok .done, saved, later) →
            ∃ view, saved.view name = .ok view ∧
              (view.loadError = none → view.dashlets = front ++ shown :: back) := by
  have describes : form.Describes name d.position d := EditForm.describes_of_dashlet? described
  refine ⟨?_, Dashlet.drawn_of_describes describes, ?_⟩
  · rw [Dashlet.kind_of_describes describes]
    have other : form.TakesReservedId → form.measureGroup ≠ EditForm.overviewGroup := And.left
    tauto
  · rintro commands replies board start last state world p changed after run known edited rfl acted
    have sound : board.Sound := sound_of_run? run
    have performed : perform? backend (board, world) (.act name .addWidget) =
        some (.ok (.placed p), changed, after) := acted
    have soundAfter : changed.Sound := sound.perform? performed
    obtain ⟨next, front, shown, back, rfl, editedStill, position, drawn, before, added⟩ :=
      drawn_of_act? sound known edited described acted
    refine ⟨front, shown, back, position, drawn, before, ⟨_, view_setTab_self board name next, added⟩, ?_⟩
    intro stored again saved later store savedAgain
    rw [← added]
    exact view_of_saved soundAfter store tab?_setTab_self editedStill savedAgain

/-- A measure of a group is added beside two widgets, saved and loaded again. -/
theorem added_widgets_are_drawn_as_chosen_iff_saved :
    ∃ (board changed saved : Board) (last after later : Memory) (front back : List DashletView)
      (shown : DashletView),
      (∃ replies, run? Memory.backend {} [.loadTabs ["t1"], .act "t1" .enterEdit,
          .act "t1" (.updateForm { measureGroup := some "Host Health" })] .measured =
        some (replies, board, last)) ∧
      board.act? Memory.backend "t1" .addWidget last = some (.ok (.placed ⟨3, 1⟩), changed, after) ∧
      changed.act? Memory.backend "t1" .save after = some (.ok .done, saved, later) ∧
      shown.position = ⟨3, 1⟩ ∧ shown.DrawsMeasure "Host Health" "cpu" ∧
      (∃ view, changed.view "t1" = .ok view ∧ view.dashlets = front ++ shown :: back) ∧
      ∃ view, saved.view "t1" = .ok view ∧ view.dashlets = front ++ shown :: back := by
  have observed : ((run? Memory.backend {} [.loadTabs ["t1"], .act "t1" .enterEdit,
      .act "t1" (.updateForm { measureGroup := some "Host Health" })] .measured).bind fun reached =>
        (reached.2.1.act? Memory.backend "t1" .addWidget reached.2.2).bind fun added =>
          (added.2.1.act? Memory.backend "t1" .save added.2.2).map fun saved =>
            ((reached.2.1.tab? "t1").map fun state => (state.mode, state.form), added.1, saved.1,
              (saved.2.1.view "t1").toOption.map TabView.loadError)) =
      some (some (.edit, { measureGroup := "Host Health", measure := some "cpu", aggregation := "Max" }),
        .ok (.placed ⟨3, 1⟩), .ok .done, some none) := by rfl
  obtain ⟨⟨replies, board, last⟩, run, observed⟩ := Option.bind_eq_some_iff.mp observed
  obtain ⟨⟨_, changed, after⟩, added, observed⟩ := Option.bind_eq_some_iff.mp observed
  obtain ⟨⟨_, saved, later⟩, savedAgain, seen⟩ := Option.map_eq_some_iff.mp observed
  simp only [Prod.mk.injEq] at seen
  rcases seen with ⟨tab, rfl, rfl, readable⟩
  obtain ⟨state, known, shape⟩ := Option.map_eq_some_iff.mp tab
  obtain ⟨edited, form⟩ := Prod.mk.inj shape
  have described : ({ measureGroup := "Host Health", measure := some "cpu", aggregation := "Max" } :
      EditForm).dashlet? "t1" =
        some { Dashlet.measurement "t1" "Host Health" "cpu" with aggregation := "Max" } := rfl
  obtain ⟨front, shown, back, position, drawn, -, viewed, reloaded⟩ :=
    (added_widgets_are_drawn_as_chosen_iff described).2.2 _ _ board _ last state last ⟨3, 1⟩ changed after
      run known edited form added
  obtain ⟨view, viewedAgain, same⟩ := reloaded Memory.records after saved later Memory.stores savedAgain
  rw [viewedAgain] at readable
  refine ⟨board, changed, saved, last, after, later, front, back, shown, ⟨replies, run⟩, added,
    savedAgain, position, ?_, viewed, view, viewedAgain, same (Option.some.inj readable)⟩
  cases drawn with
  | overview group => exact absurd group (by decide)
  | reserved takes => exact absurd takes.2 (by decide)
  | measure _ chosen _ draws =>
      obtain rfl := Option.some.inj chosen
      exact draws

/-- A measure of another group has the reserved id as its name. -/
theorem measure_is_drawn_as_overview :
    ∃ (form : EditForm) (d : Dashlet), form.dashlet? "t1" = some d ∧
      form.measureGroup = "Host Health" ∧ form.measureGroup ≠ EditForm.overviewGroup ∧
      d.kind = .unitTestOverview ∧ d.view.title = none ∧
      d.view.thumbnailUrl = "./testRunGraph?width=410&height=300&id=unittest_overview" :=
  ⟨{ measureGroup := "Host Health", measure := some "unittest_overview" }, _, rfl, rfl, by decide, rfl,
    rfl, by decide +kernel⟩

end Board

end Boards

end DashletBoard
