/-
Module: DashletBoard.Proofs.EditStarts
Purpose: What the start of an edit and the choice of a group do to a tab when lookups fail: nothing can go
  wrong while the tab is looked at, but a tab that is edited may be left half-way.
Main exports: Tab.untouched_of_ofAnswer?, Board.viewed_tabs_enter_edit, Action.chosenForm?, Tab.StoppedBy,
  Board.stopped_choices_are_undone_iff, Board.stopped_choices_are_kept
-/
import DashletBoard.Proofs.FailedOperations
import DashletBoard.Proofs.LatestLoads
import DashletBoard.Proofs.MeasureLists

namespace DashletBoard

section Starts

variable {ρ σ : Type} {backend : Backend σ} {geometry : Geometry} {name : String}

/-!
### Starts of edits while a tab is looked at

A load leaves the form as it is at first, with the chart of unit test results, which asks for nothing.
-/

namespace Tab

variable {state : Tab}

theorem untouched_of_ofAnswer? {answer : Except Failure (List Dashlet)}
    (loaded : ofAnswer? name geometry answer = some state) :
    state.form = .initial ∧ state.measures = .empty := by
  cases answer with
  | ok records =>
      rw [(ofAnswer?_ok loaded).2]
      exact ⟨rfl, rfl⟩
  | error failure =>
      rw [ofAnswer?_error loaded]
      exact ⟨rfl, rfl⟩

theorem refreshMeasures_of_untouched (state : Tab) (initial : state.form = .initial)
    (empty : state.measures = .empty) (backend : Backend ρ) (name : String) (world : ρ) :
    state.refreshMeasures backend name world = (.ok (), state, world) := by
  rcases state with ⟨grid, mode, form, measures, loadError⟩
  obtain rfl : form = .initial := initial
  obtain rfl : measures = .empty := empty
  rfl

theorem act?_enterEdit (backend : Backend ρ) (geometry : Geometry) (name : String) (state : Tab)
    (world : ρ) :
    state.act? backend geometry name .enterEdit world =
      some (.ofUnit ({ state with mode := .edit }.refreshMeasures backend name world)) := rfl

end Tab

namespace Board

variable {board : Board} {state : Tab}

/-- In every run, a tab that is looked at starts to be edited without fail.  Whatever a build server would
answer by then, it is not called, and nothing changes on the board but the mode of this tab. -/
theorem viewed_tabs_enter_edit {commands : List Command} {replies : List BoardReply} {start last : σ}
    (run : run? backend geometry commands start = some (replies, board, last))
    (known : board.tab? name = some state) (viewed : state.mode = .view) (present : Backend ρ)
    (world : ρ) (past : List BackendCall) :
    board.act? present.recorded name .enterEdit (world, past) =
      some (.ok .done, board.setTab name { state with mode := .edit }, world, past) := by
  obtain ⟨calls, recorded⟩ := run?_recorded run
  obtain ⟨-, asLoaded⟩ := run?_asLoaded recorded
  obtain ⟨answer, -, made⟩ := asLoaded name state known
  obtain ⟨initial, empty⟩ := Tab.untouched_of_ofAnswer? (made viewed)
  have quiet : ({ state with mode := .edit } : Tab).refreshMeasures present.recorded name (world, past) =
      (.ok (), { state with mode := .edit }, world, past) :=
    Tab.refreshMeasures_of_untouched { state with mode := .edit } initial empty present.recorded name
      (world, past)
  rw [act?_of_known known, Tab.act?_enterEdit, quiet]
  rfl

/-- An edit with another group chosen has been cancelled, and by then no lookup would succeed. -/
theorem viewed_tabs_enter_edit_timeout :
    ∃ (board : Board) (last : Memory) (state : Tab),
      (∃ replies, run? Memory.backend {} [.loadTabs ["t1"], .act "t1" .enterEdit,
          .act "t1" (.selectGroup "Host Health"), .act "t1" .cancelEdit] Memory.measured =
        some (replies, board, last)) ∧
        board.tab? "t1" = some state ∧ state.mode = .view ∧
        board.act? Memory.backend.recorded "t1" .enterEdit
            ({ last with script := [some "timeout"] }, []) =
          some (.ok .done, board.setTab "t1" { state with mode := .edit },
            { last with script := [some "timeout"] }, []) := by
  have observed : ((run? Memory.backend {} [.loadTabs ["t1"], .act "t1" .enterEdit,
      .act "t1" (.selectGroup "Host Health"), .act "t1" .cancelEdit] Memory.measured).bind
        fun outcome => (outcome.2.1.tab? "t1").map Tab.mode) = some .view := by rfl
  obtain ⟨⟨replies, board, last⟩, run, observed⟩ := Option.bind_eq_some_iff.mp observed
  obtain ⟨state, known, viewed⟩ := Option.map_eq_some_iff.mp observed
  exact ⟨board, last, state, ⟨replies, run⟩, known, viewed,
    viewed_tabs_enter_edit run known viewed Memory.backend { last with script := [some "timeout"] } []⟩

end Board

/-!
### Choices that a failed lookup stops

The start of an edit asks for the measures of the group that is chosen, and the choice of a group for those of
this group.  What has been changed by the time that a lookup fails is not undone.
-/

/-- The form with which an operation begins to look up measures. -/
def Action.chosenForm? (form : EditForm) : Action → Option EditForm
  | .enterEdit => some form
  | .selectGroup group => some (form.selectGroup group)
  | _ => none

namespace Tab

variable {world after : σ × List BackendCall} {state next : Tab} {action : Action} {form : EditForm}
  {failure : Failure} {new : List BackendCall}

/-- What is left of a tab when a lookup fails, with the lookups that were made.  If the measures cannot be had,
the form has changed, and the measures have not.  If the first measure has no aggregation, both have changed,
and no measure is chosen. -/
inductive StoppedBy (name : String) (failure : Failure) (form : EditForm) (state : Tab) :
    Tab → List BackendCall → Prop where
  | unlisted : StoppedBy name failure form state { state with mode := .edit, form }
      [.measures name form.measureGroup (.error failure)]
  | unchosen {measures : Measures} {first : String} (least : measures.firstKey? = some first) :
      StoppedBy name failure form state
        { state with mode := .edit, measures, form := { form with measure := none } }
        [.measures name form.measureGroup (.ok measures),
          .aggregation name form.measureGroup first (.error failure)]

theorem selectMeasure_stopped {measure : String}
    (failed : state.selectMeasure backend.recorded name measure world =
      (.error (.backend failure), next, after)) :
    next = state ∧
      after.2 = world.2 ++ [.aggregation name state.form.measureGroup measure (.error failure)] := by
  rw [selectMeasure] at failed
  split at failed
  next => cases failed
  next =>
    split at failed
    next => cases failed
    next answered =>
      cases failed
      exact ⟨rfl, aggregation_recorded answered⟩

theorem stoppedBy_of_refreshMeasures
    (failed : ({ state with mode := .edit, form } : Tab).refreshMeasures backend.recorded name world =
      (.error (.backend failure), next, after)) :
    ∃ new, after.2 = world.2 ++ new ∧ StoppedBy name failure form state next new := by
  rw [refreshMeasures, askMeasures] at failed
  cases overview : form.isOverview with
  | true =>
      rw [if_pos overview] at failed
      cases failed
  | false =>
      rw [if_neg (Bool.not_eq_true _ ▸ overview)] at failed
      split at failed
      next unlisted =>
        cases failed
        exact ⟨_, measures_recorded unlisted, .unlisted⟩
      next measures middle listed =>
        have grown := measures_recorded listed
        simp only at failed
        split at failed
        next first least =>
          obtain ⟨rfl, grownMore⟩ := selectMeasure_stopped failed
          refine ⟨_, ?_, .unchosen least⟩
          rw [grownMore, grown, List.append_assoc, List.singleton_append]
        next => cases failed

theorem refreshMeasures_of_act? (chooses : action.chosenForm? state.form = some form)
    (acted : state.act? backend.recorded geometry name action world =
      some (.error (.backend failure), next, after)) :
    ({ state with mode := .edit, form } : Tab).refreshMeasures backend.recorded name world =
      (.error (.backend failure), next, after) := by
  cases action with
  | enterEdit =>
      obtain rfl := Option.some.inj chooses
      rw [act?_enterEdit] at acted
      exact ofUnit_eq_error (Option.some.inj acted)
  | selectGroup group =>
      obtain rfl := Option.some.inj chooses
      cases mode : state.mode with
      | view =>
          rw [act?_of_view mode rfl] at acted
          cases acted
      | edit =>
          have chosen : state.act? backend.recorded geometry name (.selectGroup group) world =
              some (.ofUnit (state.selectGroup backend.recorded name group world)) := by
            simp [act?, mode]
          rw [chosen] at acted
          have failed := ofUnit_eq_error (Option.some.inj acted)
          rw [selectGroup, mode] at failed
          exact failed
  | _ => cases chooses

/-- The tab is as it was if the form was not changed by the choice and, if its measures were told, they are the
ones that it had and no measure was chosen. -/
theorem StoppedBy.undone_iff (chooses : action.chosenForm? state.form = some form)
    (stopped : StoppedBy name failure form state next new) :
    (next.form = state.form ∧ next.measures = state.measures) ↔
      form = state.form ∧ ∀ measures, .measures name form.measureGroup (.ok measures) ∈ new →
        form.measure = none ∧ measures = state.measures := by
  have fresh : form = state.form ∨ form.measure = none := by
    cases action with
    | enterEdit => exact .inl (Option.some.inj chooses).symm
    | selectGroup group =>
        obtain rfl := Option.some.inj chooses
        exact .inr rfl
    | _ => cases chooses
  cases stopped with
  | unlisted =>
      have untold (measures : Measures) : .measures name form.measureGroup (.ok measures) ∉
          [BackendCall.measures name form.measureGroup (.error failure)] := by
        simp
      exact ⟨fun same => ⟨same.1, fun measures told => absurd told (untold measures)⟩,
        fun same => ⟨same.1, rfl⟩⟩
  | @unchosen measures first least =>
      have told_iff (told : Measures) : .measures name form.measureGroup (.ok told) ∈
          [BackendCall.measures name form.measureGroup (.ok measures),
            .aggregation name form.measureGroup first (.error failure)] ↔ told = measures := by
        simp
      have whole (unchosen : form.measure = none) : { form with measure := none } = form := by
        rw [← unchosen]
      simp only [told_iff, forall_eq]
      constructor
      · rintro ⟨same, listed⟩
        rcases fresh with rfl | unchosen
        · exact ⟨rfl, (congrArg EditForm.measure same).symm, listed⟩
        · rw [whole unchosen] at same
          exact ⟨same, unchosen, listed⟩
      · rintro ⟨same, unchosen, listed⟩
        rw [whole unchosen]
        exact ⟨same, listed⟩

end Tab

namespace Board

variable {board changed : Board} {state : Tab} {action : Action} {form : EditForm} {failure : Failure}
  {world after : σ} {past calls : List BackendCall}

/-- When a lookup fails at the start of an edit or after the choice of a group, the tab keeps its widgets and
is edited.  But its form and measures are what they were only if the form was not changed by the choice and,
if its measures were told by the first lookup, they are the same and no measure had been chosen.  Otherwise
the tab is left with its old measures beside the new group, or with no measure chosen. -/
theorem stopped_choices_are_undone_iff (known : board.tab? name = some state)
    (chooses : action.chosenForm? state.form = some form)
    (acted : board.act? backend.recorded name action (world, past) =
      some (.error (.backend failure), changed, after, calls)) :
    ∃ next new, changed = board.setTab name next ∧ calls = past ++ new ∧
      Tab.StoppedBy name failure form state next new ∧
      ((next.form = state.form ∧ next.measures = state.measures) ↔
        form = state.form ∧ ∀ measures, .measures name form.measureGroup (.ok measures) ∈ new →
          form.measure = none ∧ measures = state.measures) := by
  obtain ⟨next, rfl, tabActed⟩ := tab_of_act? known acted
  obtain ⟨new, grown, stopped⟩ :=
    Tab.stoppedBy_of_refreshMeasures (Tab.refreshMeasures_of_act? chooses tabActed)
  exact ⟨next, new, rfl, grown, stopped, stopped.undone_iff chooses⟩

/-- A tab is edited, with a group and one of its measures chosen. -/
def choosing : List Command :=
  [.loadTabs ["t1"], .act "t1" .enterEdit,
    .act "t1" (.updateForm { measureGroup := some "Host Health", measure := some "mem" })]

/-- A build server of which the first calls succeed and the next one does not. -/
def timeoutAfter (calls : Nat) : Memory :=
  { Memory.measured with script := List.replicate calls none ++ [some "timeout"] }

/-- The edit is started once more.  The measures are told, and the aggregation of the first one is not. -/
theorem stopped_choices_are_undone_iff_timeout :
    ∃ (board changed : Board) (state next : Tab) (last after : Memory) (calls : List BackendCall),
      (∃ replies, run? Memory.backend {} choosing (timeoutAfter 5) = some (replies, board, last)) ∧
        board.tab? "t1" = some state ∧
        board.act? Memory.backend.recorded "t1" .enterEdit (last, []) =
          some (.error (.backend (.of "timeout")), changed, after, calls) ∧
        changed = board.setTab "t1" next ∧
        Tab.StoppedBy "t1" (.of "timeout") state.form state next calls ∧
        ¬ (next.form = state.form ∧ next.measures = state.measures) := by
  have observed : ((run? Memory.backend {} choosing (timeoutAfter 5)).bind fun chosen =>
      (chosen.2.1.tab? "t1").bind fun state =>
        (chosen.2.1.act? Memory.backend.recorded "t1" .enterEdit (chosen.2.2, [])).map fun entered =>
          (state.form.measureGroup, state.form.measure, entered.1, entered.2.2.2)) =
      some ("Host Health", some "mem", .error (.backend (.of "timeout")),
        [.measures "t1" "Host Health" (.ok (.ofList [("cpu", "CPU"), ("mem", "Memory")])),
          .aggregation "t1" "Host Health" "cpu" (.error (.of "timeout"))]) := by rfl
  obtain ⟨⟨replies, board, last⟩, run, observed⟩ := Option.bind_eq_some_iff.mp observed
  obtain ⟨state, known, observed⟩ := Option.bind_eq_some_iff.mp observed
  obtain ⟨⟨reply, changed, after, calls⟩, acted, seen⟩ := Option.map_eq_some_iff.mp observed
  simp only [Prod.mk.injEq] at seen
  rcases seen with ⟨group, measure, rfl, rfl⟩
  obtain ⟨next, new, replaced, grown, stopped, undone⟩ :=
    stopped_choices_are_undone_iff known rfl acted
  obtain rfl := grown
  refine ⟨board, changed, state, next, last, after, _, ⟨replies, run⟩, known, acted, replaced, stopped, ?_⟩
  intro same
  rw [group] at undone
  have unchosen : state.form.measure = none := ((undone.mp same).2 _ (List.mem_cons_self ..)).1
  rw [measure] at unchosen
  cases unchosen

/-- After the start of an edit has failed, no measure is chosen any more.  After the choice of a group has
failed, this group is chosen, and the measures are still those of the other one. -/
theorem stopped_choices_are_kept :
    (∃ (board changed : Board) (state next : Tab) (last after : Memory),
      (∃ replies, run? Memory.backend {} choosing (timeoutAfter 5) = some (replies, board, last)) ∧
        board.tab? "t1" = some state ∧
        board.act? Memory.backend "t1" .enterEdit last =
          some (.error (.backend (.of "timeout")), changed, after) ∧
        changed.tab? "t1" = some next ∧
        state.form.measure = some "mem" ∧ next.form.measure = none) ∧
    ∃ (board changed : Board) (state next : Tab) (last after : Memory),
      (∃ replies, run? Memory.backend {} choosing (timeoutAfter 4) = some (replies, board, last)) ∧
        board.tab? "t1" = some state ∧
        board.act? Memory.backend "t1" (.selectGroup "Garbage Collection") last =
          some (.error (.backend (.of "timeout")), changed, after) ∧
        changed.tab? "t1" = some next ∧
        state.form.measureGroup = "Host Health" ∧ next.form.measureGroup = "Garbage Collection" ∧
        next.measures = state.measures := by
  constructor
  · have observed : ((run? Memory.backend {} choosing (timeoutAfter 5)).bind fun chosen =>
        (chosen.2.1.tab? "t1").bind fun state =>
          (chosen.2.1.act? Memory.backend "t1" .enterEdit chosen.2.2).bind fun entered =>
            (entered.2.1.tab? "t1").map fun next =>
              (entered.1, state.form.measure, next.form.measure)) =
        some (.error (.backend (.of "timeout")), some "mem", none) := by rfl
    obtain ⟨⟨replies, board, last⟩, run, observed⟩ := Option.bind_eq_some_iff.mp observed
    obtain ⟨state, known, observed⟩ := Option.bind_eq_some_iff.mp observed
    obtain ⟨⟨reply, changed, after⟩, acted, observed⟩ := Option.bind_eq_some_iff.mp observed
    obtain ⟨next, left, seen⟩ := Option.map_eq_some_iff.mp observed
    simp only [Prod.mk.injEq] at seen
    rcases seen with ⟨rfl, before, now⟩
    exact ⟨board, changed, state, next, last, after, ⟨replies, run⟩, known, acted, left, before, now⟩
  · have observed : ((run? Memory.backend {} choosing (timeoutAfter 4)).bind fun chosen =>
        (chosen.2.1.tab? "t1").bind fun state =>
          (chosen.2.1.act? Memory.backend "t1" (.selectGroup "Garbage Collection") chosen.2.2).bind
            fun grouped => (grouped.2.1.tab? "t1").map fun next =>
              (grouped.1, state.form.measureGroup, next.form.measureGroup, state.measures,
                next.measures)) =
        some (.error (.backend (.of "timeout")), "Host Health", "Garbage Collection",
          .ofList [("cpu", "CPU"), ("mem", "Memory")], .ofList [("cpu", "CPU"), ("mem", "Memory")]) := by
      rfl
    obtain ⟨⟨replies, board, last⟩, run, observed⟩ := Option.bind_eq_some_iff.mp observed
    obtain ⟨state, known, observed⟩ := Option.bind_eq_some_iff.mp observed
    obtain ⟨⟨reply, changed, after⟩, acted, observed⟩ := Option.bind_eq_some_iff.mp observed
    obtain ⟨next, left, seen⟩ := Option.map_eq_some_iff.mp observed
    simp only [Prod.mk.injEq] at seen
    rcases seen with ⟨rfl, before, now, listed, still⟩
    exact ⟨board, changed, state, next, last, after, ⟨replies, run⟩, known, acted, left, before, now,
      still.trans listed.symm⟩

end Board

end Starts

end DashletBoard
