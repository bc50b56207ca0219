/-
Module: DashletBoard.Proofs.RepeatedRequests
Purpose: A PUT request that is sent twice does what it does when it is sent once.
Main exports: Tab.updated_updated, Tab.repeats_afterUpdate, Grid.setShown_setShown, Repeatable,
  Board.repeatable_act, Service.isSetting_of_put, Service.repeated_puts_change_nothing
-/
import DashletBoard.Proofs.FormUpdates
import DashletBoard.Proofs.ServiceRequests

namespace DashletBoard

open Http

section Repeated

variable {catalogue : Catalogue} {name : String} {update : FormUpdate} {state : Tab}

/-!
### Updates that are made twice

The group of an update is chosen already when the update is made again, so nothing is cleared the second
time, and no measures are looked up.  What is still looked up is the aggregation of the measure that the
update gives.
-/

namespace Tab

theorem changesGroup_updated :
    update.changesGroup (state.updated catalogue name update).form = false := by
  cases given : update.measureGroup with
  | none => simp [FormUpdate.changesGroup, given]
  | some group => simp [FormUpdate.changesGroup, updated, FormUpdate.groupAfter, given]

theorem groupAfter_updated :
    update.groupAfter (state.updated catalogue name update).form = update.groupAfter state.form :=
  FormUpdate.groupAfter_of_same changesGroup_updated

theorem updated_updated :
    (state.updated catalogue name update).updated catalogue name update =
      state.updated catalogue name update := by
  have wins (given : Option String) (text : String) : given.getD (given.getD text) = given.getD text := by
    cases given with
    | none => rfl
    | some entered => rfl
  conv_lhs => rw [updated]
  simp only [changesGroup_updated, groupAfter_updated, Bool.false_eq_true, if_false, Bool.false_or]
  cases given : update.measure with
  | none => simp [updated, given, wins]
  | some measure => simp [updated, given, wins]

/-- The second time, only the measure of an update is looked up. -/
theorem lookups_eq_append : update.lookups catalogue name state.form =
    (if update.changesGroup state.form then
      catalogue.lookupsOfGroup name (update.groupAfter state.form) else []) ++
        update.lookups catalogue name (state.updated catalogue name update).form := by
  simp only [FormUpdate.lookups, changesGroup_updated, groupAfter_updated, Bool.false_eq_true, if_false,
    List.nil_append]

theorem firstFailure?_updated
    (done : catalogue.firstFailure? name (update.lookups catalogue name state.form) = none) :
    catalogue.firstFailure? name
      (update.lookups catalogue name (state.updated catalogue name update).form) = none := by
  rw [lookups_eq_append, Catalogue.firstFailure?_append, Option.or_eq_none_iff] at done
  exact done.2

theorem calls_updated
    (done : catalogue.firstFailure? name (update.lookups catalogue name state.form) = none) :
    (catalogue.calls name
      (update.lookups catalogue name (state.updated catalogue name update).form)).Sublist
        (catalogue.calls name (update.lookups catalogue name state.form)) := by
  rw [lookups_eq_append, Catalogue.firstFailure?_append, Option.or_eq_none_iff] at done
  conv_rhs => rw [lookups_eq_append, Catalogue.calls_append_of_done done.1]
  exact List.sublist_append_right _ _

/-- An update that is made again has the same reply, leaves the tab as it is, and asks for nothing that it
has not asked for the first time. -/
structure Repeats (catalogue : Catalogue) (name : String) (update : FormUpdate) (state next : Tab) :
    Prop where
  reply : update.reply catalogue name next.form = update.reply catalogue name state.form
  settled : next.afterUpdate catalogue name update = next
  calls : (catalogue.calls name (update.lookups catalogue name next.form)).Sublist
    (catalogue.calls name (update.lookups catalogue name state.form))

theorem repeats_afterUpdate : Repeats catalogue name update state
    (state.afterUpdate catalogue name update) := by
  by_cases done : catalogue.firstFailure? name (update.lookups catalogue name state.form) = none
  · have again := firstFailure?_updated done
    have left : state.afterUpdate catalogue name update = state.updated catalogue name update :=
      if_pos done
    rw [left]
    refine ⟨?_, ?_, calls_updated done⟩
    · rw [FormUpdate.reply, FormUpdate.reply, done, again]
    · rw [afterUpdate, if_pos again, updated_updated]
  · have left : state.afterUpdate catalogue name update = state := if_neg done
    rw [left]
    exact ⟨rfl, left, List.Sublist.refl _⟩

end Tab

/-!
### Widgets that are shown or hidden twice
-/

theorem Grid.setShown_setShown {grid changed : Grid} {position : Position} {shown : Bool}
    (done : grid.setShown position shown = .ok changed) :
    changed.setShown position shown = .ok changed := by
  rw [setShown] at done
  split at done
  next => cases done
  next index found =>
    obtain rfl := Except.ok.inj done
    let change (d : Dashlet) : Dashlet := { d with shown := shown }
    have keeps (d : Dashlet) : (change d).position = d.position := rfl
    have byPosition (dashlets : List Dashlet) : dashlets.findIdx? (fun d => d.position == position) =
        (dashlets.map Dashlet.position).findIdx? (· == position) := by
      rw [List.findIdx?_map]
      rfl
    have again : (grid.dashlets.modify index change).findIdx? (fun d => d.position == position) =
        some index := by
      rw [byPosition, map_modify_of_keeps keeps, ← byPosition]
      exact found
    rw [setShown, index?, again]
    simp only [List.modify_modify_eq]
    rfl

/-!
### Operations that are made twice
-/

/-- In a world of a kind, what is done comes to an end.  Done again, it has the same reply, leaves everything as
it is by then, and makes no call that it has not made the first time. -/
def Repeatable {π σ : Type} (holds : σ → Prop)
    (act? : π → σ → Option (BoardReply × π × σ × List BackendCall)) (place : π) : Prop :=
  ∀ world, holds world → ∃ reply next middle calls,
    act? place world = some (reply, next, middle, calls) ∧ holds middle ∧
      ∃ last fewer, act? next middle = some (reply, next, last, fewer) ∧ fewer.Sublist calls

/-- What makes no calls is repeatable if it changes nothing the second time. -/
theorem Repeatable.of_quiet {π σ : Type} {holds : σ → Prop}
    {act? : π → σ → Option (BoardReply × π × σ × List BackendCall)} {place next : π} {reply : BoardReply}
    (once : ∀ world, act? place world = some (reply, next, world, []))
    (twice : ∀ world, act? next world = some (reply, next, world, [])) :
    Repeatable holds act? place := by
  intro world start
  exact ⟨reply, next, world, [], once world, start, world, [], twice world, List.Sublist.refl []⟩

/-- Whether an operation sets what it is given. -/
def Action.isSetting : Action → Bool
  | .updateForm _ | .setShown _ _ => true
  | _ => false

theorem Action.needsEdit_of_isSetting {action : Action} (sets : action.isSetting = true) :
    action.needsEdit = true := by
  cases action with
  | updateForm | setShown => rfl
  | _ => cases sets

section Operations

variable {σ : Type} {backend : Backend σ} {holds : σ → Prop} {geometry : Geometry} {action : Action}

namespace Tab

/-- An operation on a tab, with its calls. -/
def recordedAct? (backend : Backend σ) (geometry : Geometry) (name : String) (action : Action)
    (state : Tab) (world : σ) : Option (BoardReply × Tab × σ × List BackendCall) :=
  state.act? backend.recorded geometry name action (world, [])

theorem repeatable_updateForm (looksUp : backend.LooksUpIn catalogue holds) (edited : state.mode = .edit)
    (update : FormUpdate) :
    Repeatable holds (recordedAct? backend geometry name (.updateForm update)) state := by
  intro world start
  have kept : (state.afterUpdate catalogue name update).mode = .edit := by
    rw [afterUpdate]
    split
    · exact edited
    · exact edited
  have repeats : Repeats catalogue name update state (state.afterUpdate catalogue name update) :=
    repeats_afterUpdate
  obtain ⟨middle, later, once⟩ := act?_updateForm looksUp start edited update []
  obtain ⟨last, -, twice⟩ := act?_updateForm looksUp later kept update []
  rw [repeats.reply, repeats.settled] at twice
  exact ⟨_, _, middle, _, once, later, last, _, twice, repeats.calls⟩

theorem recordedAct?_setShown (edited : state.mode = .edit) (position : Position) (shown : Bool)
    (world : σ) :
    recordedAct? backend geometry name (.setShown position shown) state world =
      some (state.gridOutcome (world, []) (state.grid.setShown position shown)) := by
  simp [recordedAct?, act?, edited]

theorem repeatable_setShown (edited : state.mode = .edit) (position : Position) (shown : Bool) :
    Repeatable holds (recordedAct? backend geometry name (.setShown position shown)) state := by
  cases done : state.grid.setShown position shown with
  | error error =>
      have failed (world : σ) : recordedAct? backend geometry name (.setShown position shown) state world =
          some (.error (.grid error), state, world, []) := by
        rw [recordedAct?_setShown edited, done]
        rfl
      exact .of_quiet failed failed
  | ok grid =>
      have set (before : Tab) (editing : before.mode = .edit)
          (sets : before.grid.setShown position shown = .ok grid) (world : σ) :
          recordedAct? backend geometry name (.setShown position shown) before world =
            some (.ok .done, { before with grid }, world, []) := by
        rw [recordedAct?_setShown editing, sets]
        rfl
      exact .of_quiet (set state edited done)
        (set { state with grid } edited (Grid.setShown_setShown done))

theorem repeatable_act (looksUp : backend.LooksUpIn catalogue holds) (sets : action.isSetting = true)
    (state : Tab) : Repeatable holds (recordedAct? backend geometry name action) state := by
  cases mode : state.mode with
  | view =>
      have refused (world : σ) : recordedAct? backend geometry name action state world =
          some (.error (.notEditing name), state, world, []) :=
        act?_of_view mode (Action.needsEdit_of_isSetting sets)
      exact .of_quiet refused refused
  | edit =>
      cases action with
      | updateForm update => exact repeatable_updateForm looksUp mode update
      | setShown position shown => exact repeatable_setShown mode position shown
      | _ => cases sets

end Tab

namespace Board

/-- An operation on a board, with its calls. -/
def recordedAct? (backend : Backend σ) (name : String) (action : Action) (board : Board) (world : σ) :
    Option (BoardReply × Board × σ × List BackendCall) :=
  board.act? backend.recorded name action (world, [])

/-- An operation that sets something is repeatable on every board. -/
theorem repeatable_act (looksUp : backend.LooksUpIn catalogue holds) (sets : action.isSetting = true)
    (name : String) (board : Board) : Repeatable holds (recordedAct? backend name action) board := by
  cases known : board.tab? name with
  | none =>
      have refused (world : σ) : recordedAct? backend name action board world =
          some (.error (.unknownTab name), board, world, []) := by
        rw [recordedAct?, act?, known]
      exact .of_quiet refused refused
  | some state =>
      have onTab : Repeatable holds (Tab.recordedAct? backend board.geometry name action) state :=
        Tab.repeatable_act looksUp sets state
      intro world start
      obtain ⟨reply, next, middle, calls, once, later, last, fewer, twice, among⟩ := onTab world start
      rw [Tab.recordedAct?] at once twice
      refine ⟨reply, board.setTab name next, middle, calls, ?_, later, last, fewer, ?_, among⟩
      · rw [recordedAct?, act?_of_known known, once, Option.map_some]
      · have same : (board.setTab name next).geometry = board.geometry := rfl
        rw [recordedAct?, act?_of_known tab?_setTab_self, same, twice, Option.map_some]
        simp only [setTab_setTab]

end Board

end Operations

end Repeated

/-!
### PUT requests
-/

namespace Service

variable {request : Request}

/-- What asks for an operation that sets something, or is refused. -/
def Asked.IsSetting (asked : Asked) : Prop :=
  (∃ status, asked = .refused status) ∨
    ∃ tab action, asked = .visit tab (.act action) ∧ action.isSetting = true

theorem isSetting_ofRead {α : Type} {tab : String} {act : α → Action}
    (sets : ∀ value, (act value).isSetting = true) (read : Except Nat α) :
    (Asked.ofRead (fun value => .visit tab (.act (act value))) read).IsSetting := by
  cases read with
  | error status => exact .inl ⟨status, rfl⟩
  | ok value => exact .inr ⟨tab, act value, rfl, sets value⟩

theorem isSetting_of_call {call : Call} (put : call.endpoint.method = "PUT") :
    (call.asked request).IsSetting := by
  cases call with
  | updateForm tab => exact isSetting_ofRead (fun _ => rfl) _
  | setShown tab position => exact isSetting_ofRead (fun _ => rfl) _
  | _ => simp [Call.endpoint, Endpoint.method] at put

/-- PUT requests ask for operations that set something, unless they are refused. -/
theorem isSetting_of_put (put : request.method = "PUT") : (asked request).IsSetting := by
  rw [asked]
  split
  next => exact .inl ⟨404, rfl⟩
  next endpoint sent _ =>
    split
    next allowed =>
      split
      next => exact .inl ⟨400, rfl⟩
      next call decoded =>
        rw [Endpoint.allows, put, show ("PUT" == "HEAD") = false by decide, Bool.false_and,
          Bool.or_false, beq_iff_eq, ← endpoint_of_call? decoded] at allowed
        exact isSetting_of_call allowed.symm
    next => exact .inl ⟨405, rfl⟩

section Exchanges

variable {σ : Type} {backend overview : Backend σ} {catalogue : Catalogue} {holds : σ → Prop}

/-- The response to an operation on a tab. -/
def actResponse (board : Board) (tab : String) : BoardReply → Response
  | .ok _ => tabResponse board tab
  | .error error => errorResponse error

theorem exchange?_act {service : Service} {world after : σ} {tab : String} {action : Action}
    {reply : BoardReply} {board : Board} {calls : List BackendCall} (whole : request.method ≠ "HEAD")
    (asks : asked request = .visit tab (.act action))
    (acted : service.board.act? backend.recorded tab action (world, []) =
      some (reply, board, after, calls)) :
    exchange? backend overview (service, world) request =
      some (⟨actResponse board tab reply, calls⟩, ⟨board, service.navigator⟩, after) := by
  rw [exchange?_of_whole whole, asks, replyTo?, perform?, acted]
  rfl

/-- As long as the build server tells the same of measures, every PUT request, whatever its path and its
body, gets an answer, and when it is sent again it gets this answer again and leaves the service as it is.
This is so whether it succeeds, is refused, or fails in the board or in a lookup.  The second time, nothing
is asked of the build server that was not asked the first time. -/
theorem repeated_puts_change_nothing (looksUp : backend.LooksUpIn catalogue holds)
    (overview : Backend σ) (request : Request) (put : request.method = "PUT") (place : Service × σ)
    (start : holds place.2) :
    ∃ first second middle last,
      exchange? backend overview place request = some (first, middle) ∧
        exchange? backend overview middle request = some (second, last) ∧
        second.response = first.response ∧ last.1 = middle.1 ∧ second.calls.Sublist first.calls := by
  rcases isSetting_of_put put with ⟨status, refused⟩ | ⟨tab, action, asks, sets⟩
  · have once : exchange? backend overview place request = some (⟨.bare status, []⟩, place) :=
      exchange?_refused refused
    exact ⟨_, _, place, place, once, once, rfl, rfl, List.Sublist.refl _⟩
  · have whole : request.method ≠ "HEAD" := by
      rw [put]
      decide
    rcases place with ⟨service, world⟩
    obtain ⟨reply, changed, middle, calls, once, -, last, fewer, twice, among⟩ :=
      Board.repeatable_act looksUp sets tab service.board world start
    exact ⟨_, _, (⟨changed, service.navigator⟩, middle), _, exchange?_act whole asks once,
      exchange?_act whole asks twice, rfl, rfl, among⟩

/-- A group and a measure are chosen by one request.  When it is sent again, one lookup is made instead of
three. -/
theorem repeated_puts_change_nothing_patchy :
    let request : Request :=
      { method := "PUT", target := "/tabs/t1/form", contentType := some "application/json",
        body := "[\"Host Health\",\"mem\",null,null,null]" }
    ∃ start place first second middle last,
      initialize? Tables.patchy.backend {} ["t1"] none Memory.crowded.records = some start ∧
        (exchange? Tables.patchy.backend Tables.patchy.backend start
          { method := "POST", target := "/tabs/t1/edit" }).map Prod.snd = some place ∧
        exchange? Tables.patchy.backend Tables.patchy.backend place request = some (first, middle) ∧
        exchange? Tables.patchy.backend Tables.patchy.backend middle request = some (second, last) ∧
        first.response.status = 200 ∧ first.calls.length = 3 ∧ second.calls.length = 1 ∧
        second.response = first.response ∧ last.1 = middle.1 := by
  intro request
  have observed : ((initialize? Tables.patchy.backend {} ["t1"] none Memory.crowded.records).bind
      fun start => ((exchange? Tables.patchy.backend Tables.patchy.backend start
          { method := "POST", target := "/tabs/t1/edit" }).map Prod.snd).bind fun place =>
        (exchange? Tables.patchy.backend Tables.patchy.backend place request).bind fun once =>
          (exchange? Tables.patchy.backend Tables.patchy.backend once.2 request).map fun twice =>
            (once.1.response.status, once.1.calls.length, twice.1.calls.length)) = some (200, 3, 1) := by
    decide +kernel
  obtain ⟨start, started, observed⟩ := Option.bind_eq_some_iff.mp observed
  obtain ⟨place, edited, observed⟩ := Option.bind_eq_some_iff.mp observed
  obtain ⟨first, second, middle, last, once, twice, response, kept, -⟩ :=
    repeated_puts_change_nothing Tables.patchy.looksUpIn Tables.patchy.backend request rfl place trivial
  rw [once, Option.bind_some, twice, Option.map_some] at observed
  simp only [Option.some.injEq, Prod.mk.injEq] at observed
  rcases observed with ⟨status, three, one⟩
  exact ⟨start, place, first, second, middle, last, started, edited, once, twice, status, three, one,
    response, kept⟩

end Exchanges

end Service

end DashletBoard
