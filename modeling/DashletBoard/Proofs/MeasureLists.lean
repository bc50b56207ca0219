/-
Module: DashletBoard.Proofs.MeasureLists
Purpose: The measures that a tab offers are those of the group that is chosen in its form, as the build server
  told them last, whatever lookups fail.
Main exports: latestMeasures?, Tab.ListsGroup, Tab.KeepsLists, Tab.keepsLists_of_act?, Board.ListsGroups,
  Board.served_runs_list_chosen_groups
-/
import DashletBoard.Proofs.ServiceRequests
import DashletBoard.Proofs.TabCalls

namespace DashletBoard

/-!
### The latest measures of a group
-/

/-- The measures that a call gave for a group, if it asked for them on behalf of a tab and had success. -/
def BackendCall.measuresOf? (name group : String) : BackendCall → Option Measures
  | .measures asked wanted answer =>
      if asked = name ∧ wanted = group then answer.toOption else none
  | _ => none

/-- What the build server answered when it last told the measures of a group for a tab. -/
def latestMeasures? (name group : String) (calls : List BackendCall) : Option Measures :=
  calls.reverse.findSome? (·.measuresOf? name group)

/-- A call looks something up in a group on behalf of a tab. -/
inductive BackendCall.AsksAbout (name group : String) : BackendCall → Prop where
  | measures (answer : Except Failure Measures) : AsksAbout name group (.measures name group answer)
  | aggregation (measure : String) (answer : Except Failure String) :
      AsksAbout name group (.aggregation name group measure answer)

section Latest

variable {name group : String} {calls new : List BackendCall} {call : BackendCall}

/-- After a lookup that had success, its measures are the latest ones. -/
theorem latestMeasures?_answered (measures : Measures) :
    latestMeasures? name group (calls ++ [.measures name group (.ok measures)]) = some measures := by
  simp [latestMeasures?, BackendCall.measuresOf?, Except.toOption]

theorem latestMeasures?_append_of_others (others : ∀ call ∈ new, call.measuresOf? name group = none) :
    latestMeasures? name group (calls ++ new) = latestMeasures? name group calls := by
  have nothing : new.reverse.findSome? (·.measuresOf? name group) = none := by
    apply List.findSome?_eq_none_iff.mpr
    intro call member
    exact others call (List.mem_reverse.mp member)
  rw [latestMeasures?, List.reverse_append, List.findSome?_append, nothing, Option.none_or,
    latestMeasures?]

theorem BackendCall.measuresOf?_failed (failure : Failure) :
    (BackendCall.measures name group (.error failure)).measuresOf? name group = none := by
  simp [measuresOf?, Except.toOption]

theorem BackendCall.AsksAbout.measuresOf?_of_ne {other another : String}
    (asks : call.AsksAbout name group) (apart : other ≠ name ∨ another ≠ group) :
    call.measuresOf? other another = none := by
  cases asks with
  | aggregation => rfl
  | measures answer =>
      apply if_neg
      rintro ⟨rfl, rfl⟩
      rcases apart with apart | apart
      · exact apart rfl
      · exact apart rfl

end Latest

namespace Tab

variable {σ : Type} {backend : Backend σ} {geometry : Geometry} {name group : String}
  {world middle after : σ × List BackendCall} {state changed next : Tab}
  {calls new more : List BackendCall} {result : Except LayoutError Unit}

/-!
### Lists of measures

The chart of unit test results has no measures.  For any other group a tab offers what it was told last.
-/

/-- A tab offers the measures of the group that is chosen in its form. -/
def ListsGroup (name : String) (calls : List BackendCall) (state : Tab) : Prop :=
  if state.form.isOverview then state.measures = .empty
  else latestMeasures? name state.form.measureGroup calls = some state.measures

theorem listsGroup_of_overview (overview : state.form.isOverview = true)
    (empty : state.measures = .empty) : state.ListsGroup name calls := by
  rw [ListsGroup, if_pos overview]
  exact empty

theorem listsGroup_of_latest (other : state.form.isOverview = false)
    (latest : latestMeasures? name state.form.measureGroup calls = some state.measures) :
    state.ListsGroup name calls := by
  rw [ListsGroup, other, if_neg Bool.false_ne_true]
  exact latest

theorem ListsGroup.append (lists : state.ListsGroup name calls)
    (others : ∀ call ∈ new, call.measuresOf? name state.form.measureGroup = none) :
    state.ListsGroup name (calls ++ new) := by
  rw [ListsGroup, latestMeasures?_append_of_others others]
  exact lists

/-- Nothing but the group and the measures matters. -/
theorem ListsGroup.congr (lists : state.ListsGroup name calls)
    (group : next.form.measureGroup = state.form.measureGroup)
    (measures : next.measures = state.measures) : next.ListsGroup name calls := by
  rw [ListsGroup, EditForm.isOverview, group, measures]
  exact lists

theorem listsGroup_of_ofAnswer? {answer : Except Failure (List Dashlet)}
    (loaded : ofAnswer? name geometry answer = some state) (calls : List BackendCall) :
    state.ListsGroup name calls := by
  cases answer with
  | ok records =>
      rw [(ofAnswer?_ok loaded).2]
      exact listsGroup_of_overview rfl rfl
  | error failure =>
      rw [ofAnswer?_error loaded]
      exact listsGroup_of_overview rfl rfl

/-!
### Choices in the form

Group and measures are changed one after the other, and a lookup between the two may fail.  So it is told of
each choice which calls it adds, what holds after it if it held before, and what holds after it in any case.
-/

/-- What is kept by a choice that adds some calls: all of them look something up in one group, and a tab that
offered the measures of its group still does. -/
structure Lookups (name group : String) (state next : Tab) (new : List BackendCall) : Prop where
  asked : ∀ call ∈ new, call.AsksAbout name group
  lists : ∀ calls, state.ListsGroup name calls → next.ListsGroup name (calls ++ new)

theorem measures_recorded {answer : Except Failure Measures}
    (answered : backend.recorded.measures name group world = (answer, after)) :
    after.2 = world.2 ++ [.measures name group answer] := by
  cases answered
  rfl

theorem aggregation_recorded {measure : String} {answer : Except Failure String}
    (answered : backend.recorded.aggregation name group measure world = (answer, after)) :
    after.2 = world.2 ++ [.aggregation name group measure answer] := by
  cases answered
  rfl

/-- The choice of a measure asks for no measures, and it changes neither these nor the group. -/
theorem lookups_of_selectMeasure {measure : String}
    (chosen : state.selectMeasure backend.recorded name measure world = (result, next, after)) :
    ∃ new, after.2 = world.2 ++ new ∧ Lookups name state.form.measureGroup state next new ∧
      ∀ call ∈ new, ∀ group, call.measuresOf? name group = none := by
  rw [selectMeasure] at chosen
  split at chosen
  next =>
    cases chosen
    refine ⟨[], (List.append_nil _).symm, ⟨List.forall_mem_nil _, fun calls lists => ?_⟩,
      List.forall_mem_nil _⟩
    rw [List.append_nil]
    exact lists.congr rfl rfl
  next =>
    split at chosen
    next aggregation _ answered =>
      cases chosen
      have quiet : ∀ call ∈ [BackendCall.aggregation name state.form.measureGroup measure (.ok aggregation)],
          ∀ group, call.measuresOf? name group = none :=
        List.forall_mem_singleton.mpr fun _ => rfl
      refine ⟨_, aggregation_recorded answered,
        ⟨List.forall_mem_singleton.mpr (.aggregation _ _), fun calls lists => ?_⟩, quiet⟩
      exact (lists.append fun call member => quiet call member _).congr rfl rfl
    next failure _ failed =>
      cases chosen
      refine ⟨_, aggregation_recorded failed,
        ⟨List.forall_mem_singleton.mpr (.aggregation _ _), fun calls lists => ?_⟩,
        List.forall_mem_singleton.mpr fun _ => rfl⟩
      exact lists.append (List.forall_mem_singleton.mpr rfl)

/-- Either the lookup of the measures fails, or they are renewed.  In the second case the lookup for the first
measure may still fail, but it changes nothing of them. -/
theorem lookups_of_refreshMeasures
    (refreshed : state.refreshMeasures backend.recorded name world = (result, next, after)) :
    ∃ new, after.2 = world.2 ++ new ∧ Lookups name state.form.measureGroup state next new ∧
      (result = .ok () → ∀ calls, next.ListsGroup name (calls ++ new)) := by
  rw [refreshMeasures, askMeasures] at refreshed
  cases overview : state.form.isOverview with
  | true =>
      rw [overview] at refreshed
      cases refreshed
      have empty (calls : List BackendCall) : ListsGroup name calls
          { state with measures := .empty, form := { state.form with measure := none } } :=
        listsGroup_of_overview overview rfl
      exact ⟨[], (List.append_nil _).symm, ⟨List.forall_mem_nil _, fun calls _ => empty _⟩,
        fun _ calls => empty _⟩
  | false =>
      rw [overview, if_neg Bool.false_ne_true] at refreshed
      split at refreshed
      next failure _ failed =>
        cases refreshed
        refine ⟨_, measures_recorded failed,
          ⟨List.forall_mem_singleton.mpr (.measures _), fun calls lists => ?_⟩, fun done => ?_⟩
        · exact lists.append (List.forall_mem_singleton.mpr (BackendCall.measuresOf?_failed failure))
        · cases done
      next measures middle answered =>
        have grown := measures_recorded answered
        have renewed (calls : List BackendCall) : ListsGroup name
            (calls ++ [.measures name state.form.measureGroup (.ok measures)])
            { state with measures, form := { state.form with measure := none } } :=
          listsGroup_of_latest overview (latestMeasures?_answered measures)
        simp only at refreshed
        split at refreshed
        next measure _ =>
          obtain ⟨more, grownMore, lookups, -⟩ := lookups_of_selectMeasure refreshed
          have lists (calls : List BackendCall) := lookups.lists _ (renewed calls)
          simp only [List.append_assoc, List.singleton_append] at lists
          refine ⟨.measures name state.form.measureGroup (.ok measures) :: more, ?_, ⟨?_, ?_⟩, ?_⟩
          · rw [grownMore, grown, List.append_assoc, List.singleton_append]
          · exact List.forall_mem_cons.mpr ⟨.measures _, lookups.asked⟩
          · exact fun calls _ => lists calls
          · exact fun _ calls => lists calls
        next =>
          cases refreshed
          exact ⟨_, grown, ⟨List.forall_mem_singleton.mpr (.measures _), fun calls _ => renewed calls⟩,
            fun _ calls => renewed calls⟩

/-!
### Updates of the form
-/

/-- What an operation on a tab keeps that adds some calls: no other tab gets measures by them, and a tab that
offered the measures of its group still does. -/
structure KeepsLists (name : String) (state next : Tab) (new : List BackendCall) : Prop where
  elsewhere : ∀ call ∈ new, ∀ other group, other ≠ name → call.measuresOf? other group = none
  lists : ∀ calls, state.ListsGroup name calls → next.ListsGroup name (calls ++ new)

theorem Lookups.keepsLists (lookups : Lookups name group state next new) :
    KeepsLists name state next new where
  elsewhere call member _ _ apart := (lookups.asked call member).measuresOf?_of_ne (.inl apart)
  lists := lookups.lists

theorem KeepsLists.trans (first : KeepsLists name state changed new)
    (second : KeepsLists name changed next more) : KeepsLists name state next (new ++ more) where
  elsewhere := List.forall_mem_append.mpr ⟨first.elsewhere, second.elsewhere⟩
  lists calls listed := by
    rw [← List.append_assoc]
    exact second.lists _ (first.lists calls listed)

/-- An operation that changes neither group nor measures, and tells no measures. -/
theorem keepsLists_of_quiet (group : next.form.measureGroup = state.form.measureGroup)
    (measures : next.measures = state.measures)
    (quiet : ∀ call ∈ new, ∀ other group, call.measuresOf? other group = none) :
    KeepsLists name state next new where
  elsewhere call member other group _ := quiet call member other group
  lists _ lists :=
    (lists.append fun call member => quiet call member _ _).congr group measures

/-- The group of an update is asked about only if it is another one than before.  So whatever its lookups
answer, the measures of the old group are as they were. -/
theorem keepsLists_of_applyGroup {update : FormUpdate}
    (chosen : state.applyGroup backend.recorded name update world = (result, next, after)) :
    ∃ new, after.2 = world.2 ++ new ∧
      (∀ call ∈ new, ∀ other group, other ≠ name → call.measuresOf? other group = none) ∧
      (∀ call ∈ new, call.measuresOf? name state.form.measureGroup = none) ∧
      (result = .ok () → KeepsLists name state next new) := by
  have same : ∃ new, world.2 = world.2 ++ new ∧
      (∀ call ∈ new, ∀ other group, other ≠ name → call.measuresOf? other group = none) ∧
      (∀ call ∈ new, call.measuresOf? name state.form.measureGroup = none) ∧
      ((.ok () : Except LayoutError Unit) = .ok () → KeepsLists name state state new) :=
    ⟨[], (List.append_nil _).symm, List.forall_mem_nil _, List.forall_mem_nil _,
      fun _ => keepsLists_of_quiet rfl rfl (List.forall_mem_nil _)⟩
  rw [applyGroup] at chosen
  split at chosen
  next =>
    cases chosen
    exact same
  next group _ =>
    split at chosen
    next =>
      cases chosen
      exact same
    next another =>
      obtain ⟨new, grown, lookups, renewed⟩ := lookups_of_refreshMeasures chosen
      have elsewhere := lookups.keepsLists.elsewhere
      refine ⟨new, grown, elsewhere, fun call member => ?_, fun done => ⟨elsewhere, ?_⟩⟩
      · exact (lookups.asked call member).measuresOf?_of_ne (.inr (Ne.symm another))
      · exact fun calls _ => renewed done calls

theorem keepsLists_of_applyMeasure {update : FormUpdate}
    (chosen : state.applyMeasure backend.recorded name update world = (result, next, after)) :
    ∃ new, after.2 = world.2 ++ new ∧ KeepsLists name state next new ∧
      ∀ call ∈ new, ∀ group, call.measuresOf? name group = none := by
  rw [applyMeasure] at chosen
  split at chosen
  next =>
    cases chosen
    exact ⟨[], (List.append_nil _).symm, keepsLists_of_quiet rfl rfl (List.forall_mem_nil _),
      List.forall_mem_nil _⟩
  next =>
    obtain ⟨new, grown, lookups, quiet⟩ := lookups_of_selectMeasure chosen
    exact ⟨new, grown, lookups.keepsLists, quiet⟩

/-- An update that fails puts back form and measures, and none of its lookups was about the old group but
those for aggregations. -/
theorem keepsLists_of_updateForm {update : FormUpdate}
    (updated : state.updateForm backend.recorded name update world = (result, next, after)) :
    ∃ new, after.2 = world.2 ++ new ∧ KeepsLists name state next new := by
  simp only [updateForm] at updated
  split at updated
  next stopped =>
    obtain ⟨new, grown, elsewhere, old, -⟩ := keepsLists_of_applyGroup stopped
    cases updated
    exact ⟨new, grown, elsewhere, fun calls lists => (lists.append old).congr rfl rfl⟩
  next changed middle grouped =>
    obtain ⟨new, grown, elsewhere, old, keeps⟩ := keepsLists_of_applyGroup grouped
    split at updated
    next stopped =>
      obtain ⟨more, grownMore, keepsMore, quiet⟩ := keepsLists_of_applyMeasure stopped
      cases updated
      refine ⟨new ++ more, ?_, List.forall_mem_append.mpr ⟨elsewhere, keepsMore.elsewhere⟩, ?_⟩
      · rw [grownMore, grown, List.append_assoc]
      · intro calls lists
        have kept := lists.append (List.forall_mem_append.mpr ⟨old, fun call member =>
          quiet call member state.form.measureGroup⟩)
        exact kept.congr rfl rfl
    next done =>
      obtain ⟨more, grownMore, keepsMore, -⟩ := keepsLists_of_applyMeasure done
      cases updated
      have both := (keeps rfl).trans keepsMore
      refine ⟨new ++ more, ?_, both.elsewhere, fun calls lists => ?_⟩
      · rw [grownMore, grown, List.append_assoc]
      · exact (both.lists calls lists).congr rfl rfl

/-!
### All operations
-/

variable {action : Action} {reply : BoardReply}

theorem exists_of_ofUnit {outcome : Except LayoutError Unit × Tab × σ × List BackendCall}
    (same : Outcome.ofUnit outcome = (reply, next, after)) :
    ∃ result, outcome = (result, next, after) := by
  obtain ⟨rfl, rfl⟩ := ofUnit_eq same
  exact ⟨outcome.1, rfl⟩

/-- Every operation that a request can ask for leaves the tab with the measures of its group. -/
theorem keepsLists_of_act? (served : action.isServed = true)
    (acted : state.act? backend.recorded geometry name action world = some (reply, next, after)) :
    ∃ new, after.2 = world.2 ++ new ∧ KeepsLists name state next new := by
  have nothing : ∃ new, world.2 = world.2 ++ new ∧ KeepsLists name state state new :=
    ⟨[], (List.append_nil _).symm, keepsLists_of_quiet rfl rfl (List.forall_mem_nil _)⟩
  cases effect_of_act? acted with
  | refused => exact nothing
  | entered =>
      obtain ⟨result, refreshed⟩ := exists_of_ofUnit (Option.some.inj acted)
      obtain ⟨new, grown, lookups, -⟩ := lookups_of_refreshMeasures refreshed
      exact ⟨new, grown, lookups.keepsLists.elsewhere, fun calls lists =>
        lookups.lists calls (lists.congr rfl rfl)⟩
  | reformed edited _ chooses =>
      cases action with
      | updateForm update =>
          rw [act?, edited] at acted
          obtain ⟨result, updated⟩ := exists_of_ofUnit (Option.some.inj acted)
          exact keepsLists_of_updateForm updated
      | selectGroup | selectMeasure => cases served
      | _ => cases chooses
  | incomplete => exact nothing
  | regridded =>
      exact ⟨[], (List.append_nil _).symm, keepsLists_of_quiet rfl rfl (List.forall_mem_nil _)⟩
  | unsaved _ failed =>
      exact ⟨_, save_recorded failed,
        keepsLists_of_quiet rfl rfl (List.forall_mem_singleton.mpr fun _ _ => rfl)⟩
  | saved _ stored loaded =>
      obtain ⟨answer, grown, made⟩ := call_of_load? loaded
      rw [save_recorded stored, List.append_assoc] at grown
      have quiet : ∀ call ∈ [BackendCall.save name state.grid.records (.ok ()), .load name answer],
          ∀ other group, call.measuresOf? other group = none :=
        List.forall_mem_cons.mpr ⟨fun _ _ => rfl, List.forall_mem_singleton.mpr fun _ _ => rfl⟩
      exact ⟨_, grown, fun call member other group _ => quiet call member other group,
        fun calls _ => listsGroup_of_ofAnswer? made _⟩
  | cancelled loaded =>
      obtain ⟨answer, grown, made⟩ := call_of_load? loaded
      have quiet : ∀ call ∈ [BackendCall.load name answer],
          ∀ other group, call.measuresOf? other group = none :=
        List.forall_mem_singleton.mpr fun _ _ => rfl
      exact ⟨_, grown, fun call member other group _ => quiet call member other group,
        fun calls _ => listsGroup_of_ofAnswer? made _⟩

end Tab

/-- Whether a request can ask for a command, beside the loads at the start. -/
def Command.isServed : Command → Bool
  | .loadTabs _ => true
  | .act _ action => action.isServed

namespace Board

variable {σ : Type} {backend : Backend σ} {geometry : Geometry} {board changed : Board} {name : String}
  {world after : σ × List BackendCall} {calls new : List BackendCall}

/-!
### Boards
-/

/-- Each tab of a board offers the measures of the group that is chosen in its form. -/
def ListsGroups (board : Board) (calls : List BackendCall) : Prop :=
  ∀ name state, board.tab? name = some state → state.ListsGroup name calls

theorem ListsGroups.append (lists : board.ListsGroups calls)
    (quiet : ∀ call ∈ new, ∀ other group, call.measuresOf? other group = none) :
    board.ListsGroups (calls ++ new) :=
  fun name state known => (lists name state known).append fun call member => quiet call member _ _

theorem ListsGroups.setTab {state : Tab} (lists : board.ListsGroups calls)
    (here : state.ListsGroup name (calls ++ new))
    (elsewhere : ∀ call ∈ new, ∀ other group, other ≠ name → call.measuresOf? other group = none) :
    (board.setTab name state).ListsGroups (calls ++ new) := by
  intro other found known
  rcases tab?_setTab_cases known with ⟨rfl, rfl⟩ | ⟨distinct, before⟩
  · exact here
  · exact (lists other found before).append fun call member => elsewhere call member other _ distinct

/-- A board that is started, over any build server, lists no measures. -/
theorem listsGroups_of_initialize? {start last : σ} {names : List String}
    (loaded : ({ geometry } : Board).initialize? backend names start = some (board, last)) :
    board.ListsGroups [] := by
  refine initialize?_keeps (fun (board : Board) (_ : σ) => board.ListsGroups []) ?_ ?_ loaded
  · intro board world name state after lists loaded
    obtain ⟨made, answered, same⟩ := Option.map_eq_some_iff.mp loaded
    rcases same with ⟨rfl, rfl⟩
    have here : state.ListsGroup name ([] ++ []) := Tab.listsGroup_of_ofAnswer? answered _
    exact lists.setTab here (List.forall_mem_nil _)
  · intro name state known
    cases known

theorem ListsGroups.loadTabs {names : List String} (lists : board.ListsGroups world.2)
    (loaded : board.initialize? backend.recorded names world = some (changed, after)) :
    changed.ListsGroups after.2 := by
  refine initialize?_keeps
    (fun (board : Board) (world : σ × List BackendCall) => board.ListsGroups world.2) ?_ lists loaded
  intro board world name state after lists loaded
  obtain ⟨answer, grown, made⟩ := Tab.call_of_load? loaded
  rw [grown]
  exact lists.setTab (Tab.listsGroup_of_ofAnswer? made _)
    (List.forall_mem_singleton.mpr fun _ _ _ => rfl)

/-- An operation on a tab that a request can ask for, after some calls. -/
theorem ListsGroups.act? {action : Action} {reply : BoardReply} (served : action.isServed = true)
    (lists : board.ListsGroups calls)
    (acted : board.act? backend.recorded name action world = some (reply, changed, after)) :
    ∃ new, after.2 = world.2 ++ new ∧ changed.ListsGroups (calls ++ new) := by
  rcases effect_of_act? acted with ⟨-, -, rfl, rfl⟩ | ⟨state, next, known, rfl, tabActed, -⟩
  · exact ⟨[], (List.append_nil _).symm, lists.append (List.forall_mem_nil _)⟩
  · obtain ⟨new, grown, keeps⟩ := Tab.keepsLists_of_act? served tabActed
    exact ⟨new, grown, lists.setTab (keeps.lists calls (lists name state known)) keeps.elsewhere⟩

theorem ListsGroups.perform? {command : Command} {reply : BoardReply} (served : command.isServed = true)
    (lists : board.ListsGroups world.2)
    (performed : perform? backend.recorded (board, world) command = some (reply, changed, after)) :
    changed.ListsGroups after.2 := by
  cases command with
  | loadTabs names =>
      obtain ⟨place, loaded, same⟩ := Option.map_eq_some_iff.mp performed
      cases same
      exact lists.loadTabs loaded
  | act name action =>
      obtain ⟨new, grown, kept⟩ := lists.act? served performed
      rw [grown]
      exact kept

/-- Whatever an exchange does, the tabs offer the measures of their groups after its calls. -/
theorem ListsGroups.exchanged {overview : Backend σ} {place next : Service × σ} {request : Http.Request}
    {exchange : Service.Exchange} (lists : place.1.board.ListsGroups calls)
    (answered : Service.exchange? backend overview place request = some (exchange, next)) :
    next.1.board.ListsGroups (calls ++ exchange.calls) := by
  have done := Service.exchanged_of_exchange? answered
  generalize asks : Service.asked request = asked at done
  generalize exchange.calls = made at done ⊢
  cases done with
  | acted acted =>
      obtain ⟨new, grown, kept⟩ := lists.act? (Service.isServed_of_asked asks) acted
      obtain rfl : made = new := grown
      exact kept
  | @selected tab scrollTop =>
      rw [Service.board_select]
      exact lists.append (List.forall_mem_nil _)
  | read _ loads =>
      apply lists.append
      intro call member other group
      obtain ⟨name, answer, rfl⟩ := loads call member
      rfl

/-- Over any build server, whatever it answers and whichever lookups fail, each tab offers the measures of the
group that is chosen in its form: none for the chart of unit test results, and for any other group those that
the build server told last for this tab and this group.  So it is after all runs of the commands that requests
can ask for, and after all requests to a service that was started with any tabs. -/
theorem served_runs_list_chosen_groups (backend overview : Backend σ) (geometry : Geometry) :
    (∀ (commands : List Command) (replies : List BoardReply) (board : Board) (start last : σ),
      (∀ command ∈ commands, command.isServed = true) →
      run? backend geometry commands start = some (replies, board, last) →
      ∃ calls, run? backend.recorded geometry commands (start, []) =
          some (replies, board, last, calls) ∧
        board.ListsGroups calls) ∧
    ∀ (tabs : List String) (fragment : Option String) (start : σ) (place last : Service × σ)
        (requests : List Http.Request) (exchanges : List Service.Exchange),
      Service.initialize? backend geometry tabs fragment start = some place →
      answerAll? (Service.exchange? backend overview) place requests = some (exchanges, last) →
      last.1.board.ListsGroups (exchanges.flatMap (·.calls)) := by
  constructor
  · intro commands replies board start last served run
    obtain ⟨calls, recorded⟩ := run?_recorded run
    refine ⟨calls, recorded, ?_⟩
    refine answerAll?_keeps_among
      (fun place : Board × σ × List BackendCall => place.1.ListsGroups place.2.2)
      (fun here lists performed => lists.perform? here performed) served ?_ recorded
    intro name state known
    cases known
  · intro tabs fragment start place last requests exchanges started answered
    obtain ⟨⟨board, world⟩, loaded, same⟩ := Option.map_eq_some_iff.mp started
    cases same
    refine answerAll?_keeps_history (fun past (place : Service × σ) =>
      place.1.board.ListsGroups (past.flatMap (·.calls))) ?_ [] (listsGroups_of_initialize? loaded) answered
    intro past place request exchange next lists exchanged
    rw [List.flatMap_append, List.flatMap_singleton]
    exact lists.exchanged exchanged

/-- Two tabs are loaded, and the measures of a group are looked up.  The lookup for another group fails, and
so does the second lookup when the edit is started once more. -/
def faltering : Memory :=
  { Memory.measured with script := [none, none, none, none, some "timeout", none, some "late"] }

/-- The choices of two groups between two starts of an edit, as requests. -/
def hesitant : List Http.Request :=
  [{ method := "POST", target := "/tabs/t1/edit" },
    { method := "PUT", target := "/tabs/t1/form", contentType := some "application/json",
      body := "[\"Host Health\",null,null,null,null]" },
    { method := "PUT", target := "/tabs/t1/form", contentType := some "application/json",
      body := "[\"Garbage Collection\",null,null,null,null]" },
    { method := "POST", target := "/tabs/t1/edit" }]

theorem served_runs_list_chosen_groups_faltering :
    (∃ replies board last calls state,
      run? Memory.backend {} [.loadTabs ["t1", "t2"], .act "t1" .enterEdit,
          .act "t1" (.updateForm { measureGroup := some "Host Health" }),
          .act "t1" (.updateForm { measureGroup := some "Garbage Collection" }),
          .act "t1" .enterEdit] faltering = some (replies, board, last) ∧
        board.tab? "t1" = some state ∧ state.measures.get? "mem" = some "Memory" ∧
        latestMeasures? "t1" "Host Health" calls = some state.measures) ∧
    ∃ place exchanges last,
      Service.initialize? Memory.backend {} ["t1", "t2"] none faltering = some place ∧
        answerAll? (Service.exchange? Memory.backend Memory.backend) place hesitant =
          some (exchanges, last) ∧
        exchanges.map (·.response.status) = [200, 200, 502, 502] ∧
        last.1.board.ListsGroups (exchanges.flatMap (·.calls)) := by
  have listed := served_runs_list_chosen_groups Memory.backend Memory.backend {}
  constructor
  · have observed : ((run? Memory.backend {} [.loadTabs ["t1", "t2"], .act "t1" .enterEdit,
        .act "t1" (.updateForm { measureGroup := some "Host Health" }),
        .act "t1" (.updateForm { measureGroup := some "Garbage Collection" }),
        .act "t1" .enterEdit] faltering).bind fun outcome => outcome.2.1.tab? "t1").map (fun state =>
          (state.form.measureGroup, state.measures.get? "mem")) =
            some ("Host Health", some "Memory") := by rfl
    obtain ⟨state, found, seen⟩ := Option.map_eq_some_iff.mp observed
    obtain ⟨⟨replies, board, last⟩, run, known⟩ := Option.bind_eq_some_iff.mp found
    simp only [Prod.mk.injEq] at seen
    rcases seen with ⟨group, measures⟩
    obtain ⟨calls, -, lists⟩ := listed.1 _ replies board faltering last (by decide) run
    have latest := lists "t1" state known
    rw [Tab.ListsGroup, EditForm.isOverview, group] at latest
    exact ⟨replies, board, last, calls, state, run, known, measures, latest⟩
  · have observed : ((Service.initialize? Memory.backend {} ["t1", "t2"] none faltering).bind
        fun place => (answerAll? (Service.exchange? Memory.backend Memory.backend) place hesitant).map
          fun found => found.1.map (·.response.status)) = some [200, 200, 502, 502] := by
      decide +kernel
    obtain ⟨place, started, observed⟩ := Option.bind_eq_some_iff.mp observed
    obtain ⟨⟨exchanges, last⟩, answered, statuses⟩ := Option.map_eq_some_iff.mp observed
    exact ⟨place, exchanges, last, started, answered, statuses,
      listed.2 _ none faltering place last hesitant exchanges started answered⟩

end Board

end DashletBoard
