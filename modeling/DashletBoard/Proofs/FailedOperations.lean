/-
Module: DashletBoard.Proofs.FailedOperations
Purpose: An operation that fails leaves every tab as it was, whatever it has changed on the way to its
  failure.
Main exports: Action.isAtomic, LayoutError.isRefusal, Tab.eq_of_failed,
  Board.failed_operations_change_nothing
-/
import DashletBoard.Proofs.RecordStores

namespace DashletBoard

/-!
### Operations that fail as a whole

The start of an edit and the choice of a group change the tab before they ask for measures, and a lookup
that fails leaves them half-way.  All other operations fail as a whole, and so does every operation that
is refused.
-/

/-- Whether an operation changes nothing whenever it fails. -/
def Action.isAtomic : Action → Bool
  | .enterEdit => false
  | .selectGroup _ => false
  | _ => true

/-- Whether an error refuses an operation before it begins. -/
def LayoutError.isRefusal : LayoutError → Bool
  | .unknownTab _ => true
  | .notEditing _ => true
  | _ => false

section Failures

variable {σ : Type} {backend : Backend σ} {geometry : Geometry} {name : String} {world after : σ}
  {error : LayoutError}

namespace Tab

variable {state changed next : Tab}

/-!
### Lookups that fail
-/

theorem selectMeasure_eq_error {measure : String}
    (failed : state.selectMeasure backend name measure world = (.error error, next, after)) :
    next = state ∧ ∃ failure, error = .backend failure := by
  rw [selectMeasure] at failed
  split at failed
  · cases failed
  · split at failed
    · cases failed
    · next failure last _ =>
        cases failed
        exact ⟨rfl, failure, rfl⟩

theorem refreshMeasures_eq_error
    (failed : state.refreshMeasures backend name world = (.error error, next, after)) :
    ∃ failure, error = .backend failure := by
  rw [refreshMeasures] at failed
  split at failed
  next failure last _ =>
    cases failed
    exact ⟨failure, rfl⟩
  next measures middle _ =>
    simp only at failed
    split at failed
    · exact (selectMeasure_eq_error failed).2
    · cases failed

/-- A tab of which only form and measures have changed is the old one again when these are put back. -/
theorem Reformed.restored (reformed : Reformed backend state changed world after) :
    { changed with form := state.form, measures := state.measures } = state := by
  rw [reformed.grid, reformed.mode, reformed.loadError]

/-- Both lookups of an update come after a change of the tab: the one for its group after the form has
the group, the one for its measure after group, measures and first measure have been changed. -/
theorem updateForm_eq_error {update : FormUpdate}
    (failed : state.updateForm backend name update world = (.error error, next, after)) :
    next = state := by
  have group := applyGroup_reformed backend name update state world
  simp only [updateForm] at failed
  split at failed
  next stopped =>
    rw [stopped] at group
    cases failed
    exact group.restored
  next changed middle chosen =>
    rw [chosen] at group
    have measure := applyMeasure_reformed backend name update changed middle
    split at failed
    next stopped =>
      rw [stopped] at measure
      cases failed
      exact (group.trans measure).restored
    next => cases failed

/-!
### Operations that fail
-/

theorem ofUnit_eq_error {outcome : Except LayoutError Unit × Tab × σ}
    (same : Outcome.ofUnit outcome = (.error error, next, after)) :
    outcome = (.error error, next, after) := by
  rcases outcome with ⟨stopped | done, state, world⟩
  · cases same
    rfl
  · cases same

theorem gridReply_eq_error {response : Grid.Response} (failed : gridReply response = .error error) :
    ∃ gridError, response = .failed gridError := by
  cases response with
  | failed gridError => exact ⟨gridError, rfl⟩
  | _ => cases failed

end Tab

theorem Grid.changeAnswer_failed {grid changed : Grid} {change : Except GridError Grid}
    {gridError : GridError} (failed : grid.changeAnswer change = (.failed gridError, changed)) :
    changed = grid := by
  cases change with
  | ok next => cases failed
  | error other =>
      cases failed
      rfl

/-- A grid that refuses a request stays as it is. -/
theorem Grid.eq_of_answer?_failed {grid changed : Grid} {request : Request} {gridError : GridError}
    (answered : grid.answer? request = some (.failed gridError, changed)) : changed = grid := by
  cases request with
  | insert d => exact changeAnswer_failed (Option.some.inj answered)
  | move source target => exact changeAnswer_failed (Option.some.inj answered)
  | setShown position shown => exact changeAnswer_failed (Option.some.inj answered)
  | remove position =>
      rw [answer?] at answered
      split at answered
      · cases answered
      · cases answered
        rfl
  | add d =>
      obtain ⟨_, _, same⟩ := Option.map_eq_some_iff.mp answered
      cases same
  | nextFree =>
      obtain ⟨_, _, same⟩ := Option.map_eq_some_iff.mp answered
      cases same
  | get | isOccupied | size | isEmpty | records => cases answered

namespace Tab

variable {state next : Tab} {action : Action}

/-- What is chosen in the form fails in the build server, and not by a refusal. -/
theorem eq_of_choice_failed (edited : state.mode = .edit) (chooses : action.choosesInForm = true)
    (acted : state.act? backend geometry name action world = some (.error error, next, after))
    (whole : action.isAtomic = true ∨ error.isRefusal = true) : next = state := by
  unfold act? at acted
  simp only [edited, bne_self_eq_false, Bool.and_false, Bool.false_eq_true, if_false] at acted
  cases action with
  | selectGroup group =>
      obtain ⟨failure, rfl⟩ :=
        refreshMeasures_eq_error (ofUnit_eq_error (Option.some.inj acted))
      rcases whole with atomic | refused
      · cases atomic
      · cases refused
  | selectMeasure measure =>
      exact (selectMeasure_eq_error (ofUnit_eq_error (Option.some.inj acted))).1
  | updateForm update => exact updateForm_eq_error (ofUnit_eq_error (Option.some.inj acted))
  | _ => cases chooses

/-- The start of an edit is never refused. -/
theorem not_refused_of_enterEdit
    (acted : state.act? backend geometry name .enterEdit world = some (.error error, next, after)) :
    error.isRefusal = false := by
  obtain ⟨failure, rfl⟩ := refreshMeasures_eq_error (ofUnit_eq_error (Option.some.inj acted))
  rfl

/-- An operation that fails leaves the tab as it was, if it fails as a whole or is refused. -/
theorem eq_of_failed
    (acted : state.act? backend geometry name action world = some (.error error, next, after))
    (whole : action.isAtomic = true ∨ error.isRefusal = true) : next = state := by
  have effect := effect_of_act? acted
  generalize failed : (Except.error error : BoardReply) = reply at effect
  cases effect with
  | refused | incomplete | unsaved => rfl
  | entered =>
      rcases whole with atomic | refused
      · cases atomic
      · rw [not_refused_of_enterEdit acted] at refused
        cases refused
  | reformed edited _ chooses => exact eq_of_choice_failed edited chooses acted whole
  | regridded edited asks answered =>
      obtain ⟨gridError, rfl⟩ := gridReply_eq_error failed.symm
      rw [Grid.eq_of_answer?_failed answered]
  | saved => cases failed
  | cancelled => cases failed

end Tab

/-!
### Commands that fail
-/

namespace Board

variable {board changed : Board} {command : Command}

/-- The commands that leave all tabs as they were when they fail with an error. -/
def FailsWhole (error : LayoutError) : Command → Prop
  | .loadTabs _ => True
  | .act _ action => action.isAtomic = true ∨ error.isRefusal = true

/-- Whatever the build server answers to any call, a command that fails leaves the board, with everything
in every tab, exactly as it was, unless it is the start of an edit or the choice of a group and a lookup
failed.  So an update of the form is undone as a whole, even if its group, the measures of the group and
the first of them have been chosen by the time that a lookup fails. -/
theorem failed_operations_change_nothing
    (performed : perform? backend (board, world) command = some (.error error, changed, after))
    (whole : FailsWhole error command) : changed = board := by
  cases command with
  | loadTabs names =>
      obtain ⟨_, _, same⟩ := Option.map_eq_some_iff.mp performed
      cases same
  | act name action =>
      rcases effect_of_act? performed with ⟨-, -, rfl, -⟩ | ⟨state, next, known, rfl, acted, -⟩
      · rfl
      · obtain rfl := Tab.eq_of_failed acted whole
        exact setTab_eq_self known

/-- Group, measures and first measure of a form are chosen, and then the third lookup fails, the one for
the aggregation of the measure that was asked for. -/
theorem failed_operations_change_nothing_third_lookup :
    ∃ (board changed : Board) (world after : Memory),
      (∃ replies, run? Memory.backend {} [.loadTabs ["t1"], .act "t1" .enterEdit]
          { Memory.measured with script := [none, none, none, some "timeout"] } =
        some (replies, board, world)) ∧
        world.script = [none, none, some "timeout"] ∧
        perform? Memory.backend (board, world) (.act "t1" (.updateForm
          { measureGroup := some "Host Health", measure := some "mem" })) =
            some (.error (.backend (.of "timeout")), changed, after) ∧
        after.script = [] ∧ changed = board := by
  have observed : ((run? Memory.backend {} [.loadTabs ["t1"], .act "t1" .enterEdit]
        { Memory.measured with script := [none, none, none, some "timeout"] }).bind fun entered =>
      (perform? Memory.backend entered.2 (.act "t1" (.updateForm
          { measureGroup := some "Host Health", measure := some "mem" }))).map fun updated =>
        (entered.2.2.script, updated.1, updated.2.2.script)) =
      some ([none, none, some "timeout"], .error (.backend (.of "timeout")), []) := by rfl
  obtain ⟨⟨replies, board, world⟩, run, observed⟩ := Option.bind_eq_some_iff.mp observed
  obtain ⟨⟨reply, changed, after⟩, performed, seen⟩ := Option.map_eq_some_iff.mp observed
  simp only [Prod.mk.injEq] at seen
  rcases seen with ⟨asked, rfl, ended⟩
  exact ⟨board, changed, world, after, ⟨replies, run⟩, asked, performed, ended,
    failed_operations_change_nothing performed (.inl rfl)⟩

end Board

end Failures

end DashletBoard
