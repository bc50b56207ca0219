/-
Module: DashletBoard.Proofs.FormUpdates
Purpose: What an update makes of a form and of its measures, told by the update, the form and what the build
  server knows of measures, and the lookups that this takes.
Main exports: Catalogue, Backend.LooksUpIn, Lookup, Catalogue.calls, Catalogue.firstFailure?,
  FormUpdate.lookups, Tab.updated, Tab.consults_updateForm, Board.form_updates_are_worked_out
-/
import DashletBoard.Proofs.ByteOrder
import DashletBoard.Proofs.FailedOperations

namespace DashletBoard

/-!
### What the build server tells

As long as the build server does not change, its answers to lookups are those of a catalogue.
-/

/-- The measures of each group and the aggregation of each measure in a group, as they are told to a tab, or
the failure of the lookup. -/
structure Catalogue where
  measures : String → String → Except Failure Measures
  aggregation : String → String → String → Except Failure String

/-- In all worlds of a kind lookups are answered from a catalogue, and they lead to other worlds of this
kind. -/
structure Backend.LooksUpIn {σ : Type} (backend : Backend σ) (catalogue : Catalogue)
    (holds : σ → Prop) : Prop where
  measures : ∀ {world} name group, holds world →
    ∃ after, backend.measures name group world = (catalogue.measures name group, after) ∧ holds after
  aggregation : ∀ {world} name group measure, holds world →
    ∃ after, backend.aggregation name group measure world =
      (catalogue.aggregation name group measure, after) ∧ holds after

/-- A question about measures. -/
inductive Lookup where
  | measures (group : String)
  | aggregation (group measure : String)
deriving Repr, DecidableEq

namespace Catalogue

variable (catalogue : Catalogue) (name : String)

/-- The call that a lookup for a tab makes, with its answer. -/
def call : Lookup → BackendCall
  | .measures group => .measures name group (catalogue.measures name group)
  | .aggregation group measure =>
      .aggregation name group measure (catalogue.aggregation name group measure)

/-- How a lookup for a tab fails, if it does. -/
def failure? : Lookup → Option Failure
  | .measures group =>
      match catalogue.measures name group with
      | .ok _ => none
      | .error failure => some failure
  | .aggregation group measure =>
      match catalogue.aggregation name group measure with
      | .ok _ => none
      | .error failure => some failure

/-- The first failure of some lookups. -/
def firstFailure? (lookups : List Lookup) : Option Failure := lookups.findSome? (catalogue.failure? name)

/-- The calls of lookups that are made one after the other until one fails. -/
def calls : List Lookup → List BackendCall
  | [] => []
  | lookup :: rest =>
      catalogue.call name lookup ::
        if (catalogue.failure? name lookup).isSome then [] else calls rest

/-- The measures of a group; the chart of unit test results has none. -/
def listed (group : String) : Measures :=
  if group = EditForm.overviewGroup then .empty
  else (catalogue.measures name group).toOption.getD .empty

/-- The aggregation that is chosen together with a measure. -/
def usual (group : String) : Option String → String
  | none => ""
  | some measure =>
      if group = EditForm.overviewGroup then ""
      else Text.trim ((catalogue.aggregation name group measure).toOption.getD "")

/-- What the choice of a measure looks up. -/
def lookupsOfMeasure (group measure : String) : List Lookup :=
  if group = EditForm.overviewGroup then [] else [.aggregation group measure]

/-- What the choice of a group looks up: its measures, and the aggregation of the first one. -/
def lookupsOfGroup (group : String) : List Lookup :=
  if group = EditForm.overviewGroup then []
  else .measures group ::
    (catalogue.listed name group).leastByBytes?.toList.map (.aggregation group)

end Catalogue

/-!
### What an update asks for
-/

namespace FormUpdate

/-- Whether an update names another group than the one that is chosen. -/
def changesGroup (update : FormUpdate) (form : EditForm) : Bool :=
  update.measureGroup.any (· != form.measureGroup)

/-- The group that is chosen after an update. -/
def groupAfter (update : FormUpdate) (form : EditForm) : String :=
  update.measureGroup.getD form.measureGroup

/-- The lookups that an update needs, in their order. -/
def lookups (catalogue : Catalogue) (name : String) (update : FormUpdate) (form : EditForm) :
    List Lookup :=
  let group := update.groupAfter form
  (if update.changesGroup form then catalogue.lookupsOfGroup name group else []) ++
    update.measure.toList.flatMap (Catalogue.lookupsOfMeasure group)

theorem groupAfter_of_same {update : FormUpdate} {form : EditForm}
    (same : update.changesGroup form = false) : update.groupAfter form = form.measureGroup := by
  rw [changesGroup] at same
  rw [groupAfter]
  cases given : update.measureGroup with
  | none => rfl
  | some group =>
      rw [given] at same
      simpa using same

end FormUpdate

/-- A tab after an update of its form.  Another group brings its own measures, chooses the first of them, and
clears what was entered for the old one.  What the update gives wins over all this. -/
def Tab.updated (catalogue : Catalogue) (name : String) (update : FormUpdate) (state : Tab) : Tab :=
  let group := update.groupAfter state.form
  let changed := update.changesGroup state.form
  let measures := if changed then catalogue.listed name group else state.measures
  let measure :=
    update.measure.or (if changed then measures.leastByBytes? else state.form.measure)
  { state with
    measures
    form :=
      { measureGroup := group
        measure
        customName := update.customName.getD (if changed then "" else state.form.customName)
        customBuildCount :=
          update.customBuildCount.getD (if changed then "" else state.form.customBuildCount)
        aggregation := update.aggregation.getD
          (if changed || update.measure.isSome then catalogue.usual name group measure
            else state.form.aggregation) } }

/-!
### Lookups in tables
-/

namespace Tables

/-- The tables tell the answers. -/
def catalogue (tables : Tables) : Catalogue := ⟨tables.measures, tables.aggregation⟩

theorem looksUpIn (tables : Tables) : tables.backend.LooksUpIn tables.catalogue fun _ => True :=
  ⟨fun _ _ _ => ⟨_, rfl, trivial⟩, fun _ _ _ _ => ⟨_, rfl, trivial⟩⟩

/-- One group has two measures, with blanks around one of the aggregations, and one that has no aggregation.
Another group has none, and further groups cannot be had. -/
def patchy : Tables where
  measures _ group :=
    if group = "Host Health" then .ok (.ofList [("mem", "Memory"), ("cpu", "CPU"), ("gc", "GC")])
    else if group = "Idle" then .ok .empty
    else .error (.of "timeout")
  aggregation _ _ measure :=
    if measure = "cpu" then .ok "Max" else if measure = "mem" then .ok " Avg\n" else .error (.of "timeout")

end Tables

section Updates

variable {σ : Type} {backend : Backend σ} {catalogue : Catalogue} {holds : σ → Prop} {name : String}

/-!
### Lookups one after the other
-/

namespace Catalogue

variable {lookups more : List Lookup}

theorem firstFailure?_append : catalogue.firstFailure? name (lookups ++ more) =
    (catalogue.firstFailure? name lookups).or (catalogue.firstFailure? name more) :=
  List.findSome?_append

theorem calls_append_of_done (done : catalogue.firstFailure? name lookups = none) :
    catalogue.calls name (lookups ++ more) = catalogue.calls name lookups ++ catalogue.calls name more := by
  induction lookups with
  | nil => rfl
  | cons lookup rest ih =>
      obtain ⟨here, later⟩ := List.forall_mem_cons.mp (List.findSome?_eq_none_iff.mp done)
      have rest := ih (List.findSome?_eq_none_iff.mpr later)
      simp only [List.cons_append, calls, here, Option.isSome_none, Bool.false_eq_true, if_false, rest]

theorem calls_append_of_failed {failure : Failure}
    (failed : catalogue.firstFailure? name lookups = some failure) :
    catalogue.calls name (lookups ++ more) = catalogue.calls name lookups := by
  induction lookups with
  | nil => cases failed
  | cons lookup rest ih =>
      rw [List.cons_append, calls, calls]
      cases here : catalogue.failure? name lookup with
      | some first => rfl
      | none =>
          rw [firstFailure?, List.findSome?_cons, here] at failed
          simp only [Option.isSome_none, Bool.false_eq_true, if_false, ih failed]

theorem listed_of_overview : catalogue.listed name EditForm.overviewGroup = .empty := if_pos rfl

theorem listed_of_ok {group : String} {measures : Measures} (other : group ≠ EditForm.overviewGroup)
    (told : catalogue.measures name group = .ok measures) : catalogue.listed name group = measures := by
  rw [listed, if_neg other, told]
  rfl

end Catalogue

section Recorded

variable {world : σ × List BackendCall} (looksUp : backend.LooksUpIn catalogue holds)
  (start : holds world.1) (name : String)
include looksUp start

theorem Backend.LooksUpIn.measures_recorded (group : String) :
    ∃ after, backend.recorded.measures name group world = (catalogue.measures name group, after) ∧
      holds after.1 ∧ after.2 = world.2 ++ [catalogue.call name (.measures group)] := by
  obtain ⟨after, answered, later⟩ := looksUp.measures name group start
  refine ⟨(after, world.2 ++ [catalogue.call name (.measures group)]), ?_, later, rfl⟩
  simp only [Backend.recorded, answered, Catalogue.call]

theorem Backend.LooksUpIn.aggregation_recorded (group measure : String) :
    ∃ after, backend.recorded.aggregation name group measure world =
        (catalogue.aggregation name group measure, after) ∧
      holds after.1 ∧ after.2 = world.2 ++ [catalogue.call name (.aggregation group measure)] := by
  obtain ⟨after, answered, later⟩ := looksUp.aggregation name group measure start
  refine ⟨(after, world.2 ++ [catalogue.call name (.aggregation group measure)]), ?_, later, rfl⟩
  simp only [Backend.recorded, answered, Catalogue.call]

end Recorded

namespace Tab

variable {world after last : σ × List BackendCall} {state changed next chosen left : Tab}
  {error : LayoutError} {lookups more : List Lookup}
  {outcome : Except LayoutError Unit × Tab × σ × List BackendCall}

/-- A choice makes some lookups until one fails, and fails with it.  If all of them succeed, it turns the tab
into another one. -/
structure Consults (catalogue : Catalogue) (holds : σ → Prop) (name : String)
    (world : σ × List BackendCall) (lookups : List Lookup) (chosen : Tab)
    (outcome : Except LayoutError Unit × Tab × σ × List BackendCall) : Prop where
  holds : holds outcome.2.2.1
  calls : outcome.2.2.2 = world.2 ++ catalogue.calls name lookups
  failed : ∀ failure, catalogue.firstFailure? name lookups = some failure →
    outcome.1 = .error (.backend failure)
  done : catalogue.firstFailure? name lookups = none → outcome.1 = .ok () ∧ outcome.2.1 = chosen

theorem consults_nothing (start : holds world.1) :
    Consults catalogue holds name world [] state (.ok (), state, world) :=
  ⟨start, (List.append_nil _).symm, nofun, fun _ => ⟨rfl, rfl⟩⟩

theorem consults_failed {lookup : Lookup} {failure : Failure} (later : holds after.1)
    (grown : after.2 = world.2 ++ [catalogue.call name lookup])
    (failed : catalogue.failure? name lookup = some failure) :
    Consults catalogue holds name world [lookup] chosen (.error (.backend failure), left, after) := by
  have first : catalogue.firstFailure? name [lookup] = some failure := by
    rw [Catalogue.firstFailure?, List.findSome?_cons, failed]
  have calls : catalogue.calls name [lookup] = [catalogue.call name lookup] := by
    rw [Catalogue.calls, failed, Option.isSome_some, if_pos rfl]
  refine ⟨later, ?_, ?_, ?_⟩
  · rw [calls]
    exact grown
  · intro other same
    rw [Option.some.inj (first.symm.trans same)]
  · intro none
    rw [first] at none
    cases none

theorem consults_answered {lookup : Lookup} (later : holds after.1)
    (grown : after.2 = world.2 ++ [catalogue.call name lookup])
    (answered : catalogue.failure? name lookup = none) :
    Consults catalogue holds name world [lookup] chosen (.ok (), chosen, after) := by
  have none : catalogue.firstFailure? name [lookup] = none := by
    rw [Catalogue.firstFailure?, List.findSome?_cons, answered]
    rfl
  have calls : catalogue.calls name [lookup] = [catalogue.call name lookup] := by
    rw [Catalogue.calls, answered]
    rfl
  refine ⟨later, ?_, ?_, fun _ => ⟨rfl, rfl⟩⟩
  · rw [calls]
    exact grown
  · intro failure failed
    rw [none] at failed
    cases failed

/-- A choice may go on where another one has come to its end. -/
theorem Consults.trans
    (first : Consults catalogue holds name world lookups changed (.ok (), next, after))
    (second : next = changed → Consults catalogue holds name after more chosen outcome) :
    Consults catalogue holds name world (lookups ++ more) chosen outcome := by
  have whole : catalogue.firstFailure? name lookups = none := by
    cases failed : catalogue.firstFailure? name lookups with
    | none => rfl
    | some failure => cases first.failed failure failed
  have second := second (first.done whole).2
  have append : catalogue.firstFailure? name (lookups ++ more) =
      catalogue.firstFailure? name more := by
    rw [Catalogue.firstFailure?_append, whole, Option.none_or]
  refine ⟨second.holds, ?_, ?_, ?_⟩
  · have sofar : after.2 = world.2 ++ catalogue.calls name lookups := first.calls
    rw [second.calls, sofar, Catalogue.calls_append_of_done whole, List.append_assoc]
  · rw [append]
    exact second.failed
  · rw [append]
    exact second.done

/-- After a failure nothing more is looked up, whatever is made of the tab. -/
theorem Consults.stopped
    (first : Consults catalogue holds name world lookups changed (.error error, next, after)) :
    Consults catalogue holds name world (lookups ++ more) chosen (.error error, left, after) := by
  cases failed : catalogue.firstFailure? name lookups with
  | none => cases (first.done failed).1
  | some failure =>
      have append : catalogue.firstFailure? name (lookups ++ more) = some failure := by
        rw [Catalogue.firstFailure?_append, failed, Option.some_or]
      refine ⟨first.holds, ?_, ?_, ?_⟩
      · rw [Catalogue.calls_append_of_failed failed]
        exact first.calls
      · intro other same
        obtain rfl := Option.some.inj (append.symm.trans same)
        exact first.failed failure failed
      · intro none
        rw [append] at none
        cases none

/-!
### Choices in the form
-/

/-- The tab after the choice of a measure. -/
def withUsual (catalogue : Catalogue) (name measure : String) (state : Tab) : Tab :=
  { state with
    form := { state.form with
      measure := some measure
      aggregation := catalogue.usual name state.form.measureGroup (some measure) } }

/-- The tab after the choice of a group. -/
def regrouped (catalogue : Catalogue) (name group : String) (state : Tab) : Tab :=
  let measures := catalogue.listed name group
  { state with
    measures
    form :=
      { measureGroup := group
        measure := measures.leastByBytes?
        aggregation := catalogue.usual name group measures.leastByBytes? } }

/-- The tab after the group of an update was chosen, if it is another one. -/
def grouped (catalogue : Catalogue) (name : String) (update : FormUpdate) (state : Tab) : Tab :=
  if update.changesGroup state.form then
    state.regrouped catalogue name (update.groupAfter state.form)
  else state

/-- The tab after the measure of an update was chosen, if there is one. -/
def measured (catalogue : Catalogue) (name : String) (update : FormUpdate) (state : Tab) : Tab :=
  match update.measure with
  | none => state
  | some measure => state.withUsual catalogue name measure

theorem measureGroup_grouped (update : FormUpdate) (state : Tab) :
    (state.grouped catalogue name update).form.measureGroup = update.groupAfter state.form := by
  rw [grouped]
  split
  next => rfl
  next same => rw [FormUpdate.groupAfter_of_same (Bool.not_eq_true _ ▸ same)]

/-- The plain fields go last. -/
theorem updated_eq (catalogue : Catalogue) (name : String) (update : FormUpdate) (state : Tab) :
    let changed := (state.grouped catalogue name update).measured catalogue name update
    state.updated catalogue name update = { changed with form := changed.form.fill update } := by
  rw [grouped, measured]
  cases changes : update.changesGroup state.form with
  | true =>
      cases given : update.measure with
      | none => simp [updated, regrouped, changes, given, EditForm.fill]
      | some measure => simp [updated, regrouped, withUsual, changes, given, EditForm.fill]
  | false =>
      have same := FormUpdate.groupAfter_of_same changes
      cases given : update.measure with
      | none => simp [updated, changes, same, given, EditForm.fill]
      | some measure => simp [updated, withUsual, changes, same, given, EditForm.fill]

section Choices

variable (looksUp : backend.LooksUpIn catalogue holds) (start : holds world.1) (name : String)
include looksUp start

theorem consults_selectMeasure (measure : String) (state : Tab) :
    Consults catalogue holds name world (Catalogue.lookupsOfMeasure state.form.measureGroup measure)
      (state.withUsual catalogue name measure)
      (state.selectMeasure backend.recorded name measure world) := by
  rw [selectMeasure, EditForm.isOverview, Catalogue.lookupsOfMeasure]
  by_cases overview : state.form.measureGroup = EditForm.overviewGroup
  · have same : state.withMeasure measure "" = state.withUsual catalogue name measure := by
      rw [withMeasure, withUsual, Catalogue.usual, if_pos overview]
      rfl
    rw [if_pos overview, if_pos (beq_iff_eq.mpr overview), same]
    exact consults_nothing start
  · rw [if_neg overview, if_neg (mt beq_iff_eq.mp overview)]
    obtain ⟨after, answered, later, grown⟩ :=
      looksUp.aggregation_recorded start name state.form.measureGroup measure
    rw [answered]
    cases told : catalogue.aggregation name state.form.measureGroup measure with
    | error failure =>
        refine consults_failed later grown ?_
        rw [Catalogue.failure?, told]
    | ok aggregation =>
        have same : state.withMeasure measure aggregation =
            state.withUsual catalogue name measure := by
          rw [withMeasure, withUsual, Catalogue.usual, if_neg overview, told]
          rfl
        dsimp only
        rw [same]
        refine consults_answered later grown ?_
        rw [Catalogue.failure?, told]

theorem consults_selectGroup (group : String) (state : Tab) :
    Consults catalogue holds name world (catalogue.lookupsOfGroup name group)
      (state.regrouped catalogue name group)
      (state.selectGroup backend.recorded name group world) := by
  rw [selectGroup, refreshMeasures, askMeasures, EditForm.isOverview, Catalogue.lookupsOfGroup]
  by_cases overview : group = EditForm.overviewGroup
  · subst overview
    have same : state.regrouped catalogue name EditForm.overviewGroup =
        { state with measures := .empty, form := { measureGroup := EditForm.overviewGroup } } := by
      rw [regrouped, Catalogue.listed_of_overview]
      rfl
    rw [if_pos rfl, same]
    exact consults_nothing start
  · have other : (group == EditForm.overviewGroup) = false := beq_false_of_ne overview
    obtain ⟨middle, answered, between, grown⟩ :=
      looksUp.measures_recorded start name group
    simp only [if_neg overview, EditForm.selectGroup, other, Bool.false_eq_true, if_false, answered]
    cases told : catalogue.measures name group with
    | error failure =>
        have stopped : Consults catalogue holds name world [.measures group] state
            (.error (.backend failure), state, middle) := by
          refine consults_failed between grown ?_
          rw [Catalogue.failure?, told]
        exact stopped.stopped
    | ok measures =>
        let listing : Tab := { state with measures, form := { measureGroup := group } }
        have asked : Consults catalogue holds name world [.measures group] listing
            (.ok (), listing, middle) := by
          refine consults_answered between grown ?_
          rw [Catalogue.failure?, told]
        rw [regrouped, Catalogue.listed_of_ok overview told, Dictionary.leastByBytes?_eq_firstKey?]
        refine asked.trans fun _ => ?_
        dsimp only
        cases measures.firstKey? with
        | none => exact consults_nothing between
        | some first =>
            have chosen := consults_selectMeasure looksUp between name first listing
            rw [Catalogue.lookupsOfMeasure, if_neg overview] at chosen
            exact chosen

theorem consults_applyGroup (update : FormUpdate) (state : Tab) :
    Consults catalogue holds name world
      (if update.changesGroup state.form then
        catalogue.lookupsOfGroup name (update.groupAfter state.form) else [])
      (state.grouped catalogue name update)
      (state.applyGroup backend.recorded name update world) := by
  rw [applyGroup, grouped, FormUpdate.changesGroup, FormUpdate.groupAfter]
  cases update.measureGroup with
  | none => exact consults_nothing start
  | some group =>
      by_cases same : group = state.form.measureGroup
      · simp only [Option.any_some, bne_iff_ne, ne_eq, same, not_true_eq_false, if_false, if_true]
        exact consults_nothing start
      · simp only [Option.any_some, bne_iff_ne, ne_eq, same, not_false_eq_true, if_true, if_false]
        exact consults_selectGroup looksUp start name group state

theorem consults_applyMeasure (update : FormUpdate) (state : Tab) :
    Consults catalogue holds name world
      (update.measure.toList.flatMap (Catalogue.lookupsOfMeasure state.form.measureGroup))
      (state.measured catalogue name update)
      (state.applyMeasure backend.recorded name update world) := by
  rw [applyMeasure, measured]
  cases update.measure with
  | none => exact consults_nothing start
  | some measure =>
      rw [Option.toList_some, List.flatMap_singleton]
      exact consults_selectMeasure looksUp start name measure state

/-- An update looks up what it needs, and the tab is worked out from the answers. -/
theorem consults_updateForm (update : FormUpdate) (state : Tab) :
    Consults catalogue holds name world (update.lookups catalogue name state.form)
      (state.updated catalogue name update)
      (state.updateForm backend.recorded name update world) := by
  have group := consults_applyGroup looksUp start name update state
  simp only [updateForm, FormUpdate.lookups]
  generalize state.applyGroup backend.recorded name update world = outcome at group ⊢
  rcases outcome with ⟨error | done, changed, middle⟩
  · exact group.stopped
  · refine group.trans fun same => ?_
    have measure := consults_applyMeasure looksUp group.holds name update changed
    rw [same, measureGroup_grouped, ← same] at measure
    dsimp only
    generalize changed.applyMeasure backend.recorded name update middle = outcome at measure ⊢
    rcases outcome with ⟨error | done, last, after⟩
    · rw [← List.append_nil (update.measure.toList.flatMap _)]
      exact measure.stopped
    · refine ⟨measure.holds, measure.calls, measure.failed, fun none => ⟨rfl, ?_⟩⟩
      have chosen : last = changed.measured catalogue name update := (measure.done none).2
      rw [updated_eq, ← same, ← chosen]

end Choices

end Tab

/-!
### Updates of a board

An update that fails leaves the tab as it was, so what it replies and what it leaves depend on the first
failure alone.
-/

/-- The reply to an update. -/
def FormUpdate.reply (catalogue : Catalogue) (name : String) (update : FormUpdate) (form : EditForm) :
    BoardReply :=
  match catalogue.firstFailure? name (update.lookups catalogue name form) with
  | some failure => .error (.backend failure)
  | none => .ok .done

/-- A tab after an update that may fail. -/
def Tab.afterUpdate (catalogue : Catalogue) (name : String) (update : FormUpdate) (state : Tab) : Tab :=
  if catalogue.firstFailure? name (update.lookups catalogue name state.form) = none then
    state.updated catalogue name update
  else state

/-- An update of a tab that is edited comes to an end. -/
theorem Tab.act?_updateForm {state : Tab} {world : σ} {geometry : Geometry}
    (looksUp : backend.LooksUpIn catalogue holds) (start : holds world) (edited : state.mode = .edit)
    (update : FormUpdate) (past : List BackendCall) :
    ∃ after, holds after ∧
      state.act? backend.recorded geometry name (.updateForm update) (world, past) =
        some (update.reply catalogue name state.form, state.afterUpdate catalogue name update, after,
          past ++ catalogue.calls name (update.lookups catalogue name state.form)) := by
  have begins : holds ((world, past) : σ × List BackendCall).1 := start
  have consults := consults_updateForm looksUp begins name update state
  have acted : state.act? backend.recorded geometry name (.updateForm update) (world, past) =
      some (.ofUnit (state.updateForm backend.recorded name update (world, past))) := by
    simp [act?, edited]
  rw [acted, FormUpdate.reply, afterUpdate]
  rcases updated : state.updateForm backend.recorded name update (world, past) with
    ⟨reply, next, after, calls⟩
  rw [updated] at consults
  obtain rfl : calls = _ := consults.calls
  refine ⟨after, consults.holds, ?_⟩
  cases failed : catalogue.firstFailure? name (update.lookups catalogue name state.form) with
  | some failure =>
      obtain rfl : reply = _ := consults.failed failure failed
      rw [updateForm_eq_error updated]
      rfl
  | none =>
      obtain ⟨rfl, rfl⟩ : reply = _ ∧ next = _ := consults.done failed
      rfl

namespace Board

variable {board : Board} {state : Tab}

/-- An update of the form of a tab that is edited fails exactly if one of the lookups that it needs fails,
with the first of these failures, and then all tabs are as before.  Otherwise the tab is the one that is
worked out from its form, its measures and the answers.  Either way the lookups are made in their order,
up to the first that fails, and nothing else is asked for. -/
theorem form_updates_are_worked_out (looksUp : backend.LooksUpIn catalogue holds)
    (known : board.tab? name = some state) (edited : state.mode = .edit) (update : FormUpdate) (world : σ)
    (start : holds world) (past : List BackendCall) :
    let needed := update.lookups catalogue name state.form
    ∃ reply changed after,
      board.act? backend.recorded name (.updateForm update) (world, past) =
          some (reply, changed, after, past ++ catalogue.calls name needed) ∧
        holds after ∧
        ((∃ failure, reply = .error (.backend failure)) ↔
          ∃ lookup ∈ needed, ∃ failure, catalogue.failure? name lookup = some failure) ∧
        (∀ failure, catalogue.firstFailure? name needed = some failure →
          reply = .error (.backend failure) ∧ changed = board) ∧
        (catalogue.firstFailure? name needed = none →
          reply = .ok .done ∧ changed = board.setTab name (state.updated catalogue name update)) := by
  intro needed
  obtain ⟨after, later, tabActed⟩ := Tab.act?_updateForm looksUp start edited update past
  have acted : board.act? backend.recorded name (.updateForm update) (world, past) =
      some (update.reply catalogue name state.form,
        board.setTab name (state.afterUpdate catalogue name update), after,
        past ++ catalogue.calls name needed) := by
    rw [act?_of_known known, tabActed, Option.map_some]
  refine ⟨_, _, after, acted, later, ?_⟩
  have fails : (∃ lookup ∈ needed, ∃ failure, catalogue.failure? name lookup = some failure) ↔
      ∃ failure, catalogue.firstFailure? name needed = some failure := by
    simp only [← Option.isSome_iff_exists, Catalogue.firstFailure?, List.findSome?_isSome_iff]
  rw [fails, FormUpdate.reply, Tab.afterUpdate]
  cases failed : catalogue.firstFailure? name needed with
  | none =>
      rw [if_pos rfl]
      exact ⟨⟨nofun, nofun⟩, nofun, fun _ => ⟨rfl, rfl⟩⟩
  | some failure =>
      rw [if_neg nofun, setTab_eq_self known]
      refine ⟨⟨fun _ => ⟨failure, rfl⟩, fun _ => ⟨failure, rfl⟩⟩, ?_, nofun⟩
      rintro other ⟨rfl⟩
      exact ⟨rfl, rfl⟩

/-- The group, the measure and the name that an update gives are in the form afterwards, with the aggregation
of this measure, although the first measure of the group has been chosen before it. -/
theorem form_updates_are_worked_out_patchy :
    ∃ (board changed : Board) (state : Tab) (world after : List Dashlet),
      (∃ replies, run? Tables.patchy.backend {} [.loadTabs ["t1"], .act "t1" .enterEdit] [] =
        some (replies, board, world)) ∧
        board.tab? "t1" = some state ∧
        board.act? Tables.patchy.backend.recorded "t1" (.updateForm
            { measureGroup := some "Host Health", measure := some "mem", customName := some "Memory" })
          (world, []) = some (.ok .done, changed, after,
            [.measures "t1" "Host Health" (Tables.patchy.measures "t1" "Host Health"),
              .aggregation "t1" "Host Health" "cpu" (.ok "Max"),
              .aggregation "t1" "Host Health" "mem" (.ok " Avg\n")]) ∧
        changed = board.setTab "t1" { state with
          measures := .ofList [("mem", "Memory"), ("cpu", "CPU"), ("gc", "GC")]
          form := ⟨"Host Health", some "mem", "Memory", "", "Avg"⟩ } := by
  have observed : ((run? Tables.patchy.backend {} [.loadTabs ["t1"], .act "t1" .enterEdit] []).bind
      fun entered => (entered.2.1.tab? "t1").map fun state => (state.mode, state.form)) =
      some (.edit, .initial) := by rfl
  obtain ⟨⟨replies, board, world⟩, run, observed⟩ := Option.bind_eq_some_iff.mp observed
  obtain ⟨state, known, seen⟩ := Option.map_eq_some_iff.mp observed
  obtain ⟨edited, initial⟩ := Prod.mk.inj seen
  obtain ⟨reply, changed, after, acted, -, -, -, done⟩ :=
    form_updates_are_worked_out Tables.patchy.looksUpIn known edited
      { measureGroup := some "Host Health", measure := some "mem", customName := some "Memory" }
      world trivial []
  rw [initial] at acted done
  obtain ⟨rfl, rfl⟩ := done rfl
  refine ⟨board, _, state, world, after, ⟨replies, run⟩, known, acted, ?_⟩
  rw [Tab.updated, initial]
  rfl

end Board

end Updates

end DashletBoard
