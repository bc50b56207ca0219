/-
Module: DashletBoard.Proofs.TabCalls
Purpose: Which calls to the build server an operation makes, in which order, and what they make of the
  tab.
Main exports: BackendCall.isLookup, Tab.Calls, Tab.calls_of_effect, Tab.Calls.refuses,
  Tab.Calls.stores, Tab.Calls.saves, Tab.Calls.load_mem_iff, Tab.Calls.mode,
  Board.tab?_of_initialize?, Board.calls_of_initialize?
-/
import DashletBoard.Proofs.TabEffects
import DashletBoard.Proofs.TabLoading

namespace DashletBoard

/-- Whether a call only looks up measures or an aggregation. -/
def BackendCall.isLookup : BackendCall → Bool
  | .measures .. => true
  | .aggregation .. => true
  | _ => false

/-- Whether an operation changes form or widgets, and neither begins nor ends the edit of a tab. -/
def Action.isChange : Action → Bool
  | .enterEdit => false
  | .cancelEdit => false
  | .save => false
  | _ => true

/-- Whether an operation with its reply has loaded the tab. -/
def Action.reloads : Action → BoardReply → Bool
  | .cancelEdit, .ok _ => true
  | .save, .ok _ => true
  | _, _ => false

theorem Action.reloads_error (action : Action) (error : LayoutError) :
    action.reloads (.error error) = false := by
  cases action <;> rfl

theorem Action.reloads_of_isChange {action : Action} (changes : action.isChange = true)
    (reply : BoardReply) : action.reloads reply = false := by
  cases action with
  | enterEdit | cancelEdit | save => cases changes
  | _ => rfl

section Recorded

variable {σ : Type} {backend : Backend σ} {geometry : Geometry} {name : String}
  {world after : σ × List BackendCall}

/-!
### Growing records

The record of calls only grows at its end.  What an effect adds to it does not depend on what it holds.
-/

theorem lookups_append {past now : List BackendCall} {call : BackendCall}
    (sofar : ∃ calls, now = past ++ calls ∧ ∀ call ∈ calls, call.isLookup = true)
    (lookup : call.isLookup = true) :
    ∃ calls, now ++ [call] = past ++ calls ∧ ∀ call ∈ calls, call.isLookup = true := by
  obtain ⟨calls, rfl, lookups⟩ := sofar
  exact ⟨calls ++ [call], List.append_assoc .., List.forall_mem_append.mpr
    ⟨lookups, List.forall_mem_singleton.mpr lookup⟩⟩

theorem lookups_of_asked (asked : backend.recorded.Asked world after) :
    ∃ calls, after.2 = world.2 ++ calls ∧ ∀ call ∈ calls, call.isLookup = true := by
  induction asked with
  | nothing => exact ⟨[], (List.append_nil _).symm, fun call member => absurd member List.not_mem_nil⟩
  | measures _ name group ih => exact lookups_append ih rfl
  | aggregation _ name group measure ih => exact lookups_append ih rfl

namespace Tab

variable {state next : Tab} {action : Action} {reply : BoardReply}

theorem call_of_load? (loaded : load? backend.recorded geometry name world = some (state, after)) :
    ∃ answer, after.2 = world.2 ++ [.load name answer] ∧
      ofAnswer? name geometry answer = some state := by
  obtain ⟨made, answered, same⟩ := Option.map_eq_some_iff.mp loaded
  rcases same with ⟨rfl, rfl⟩
  exact ⟨(backend.load name world.1).1, rfl, answered⟩

/-- A tab that was just loaded is looked at. -/
theorem mode_of_ofAnswer? {answer : Except Failure (List Dashlet)}
    (loaded : ofAnswer? name geometry answer = some state) : state.mode = .view := by
  cases answer with
  | ok records => rw [(ofAnswer?_ok loaded).2]; rfl
  | error failure => rw [ofAnswer?_error loaded]; rfl

/-- All that an operation can ask of the build server, with the answers.  Nothing is stored but by a
save of a tab that is edited, and nothing is loaded but by a save that was stored and by the end of an
edit. -/
inductive Calls (geometry : Geometry) (name : String) (state : Tab) :
    Action → BoardReply → Tab → List BackendCall → Prop where
  | refused {action : Action} (needed : action.needsEdit = true) (viewed : state.mode = .view) :
      Calls geometry name state action (.error (.notEditing name)) state []
  | entered {reply : BoardReply} {next : Tab} {calls : List BackendCall}
      (entered : next.mode = .edit) (lookups : ∀ call ∈ calls, call.isLookup = true) :
      Calls geometry name state .enterEdit reply next calls
  | changed {action : Action} {reply : BoardReply} {next : Tab} {calls : List BackendCall}
      (changes : action.isChange = true) (edited : state.mode = .edit) (kept : next.mode = .edit)
      (lookups : ∀ call ∈ calls, call.isLookup = true) :
      Calls geometry name state action reply next calls
  | unsaved {failure : Failure} (edited : state.mode = .edit) :
      Calls geometry name state .save (.error (.backend failure)) state
        [.save name state.grid.records (.error failure)]
  | saved {next : Tab} {answer : Except Failure (List Dashlet)} (edited : state.mode = .edit)
      (loaded : ofAnswer? name geometry answer = some next) :
      Calls geometry name state .save (.ok .done) next
        [.save name state.grid.records (.ok ()), .load name answer]
  | cancelled {next : Tab} {answer : Except Failure (List Dashlet)}
      (loaded : ofAnswer? name geometry answer = some next) :
      Calls geometry name state .cancelEdit (.ok .done) next [.load name answer]

theorem isChange_of_choosesInForm (chooses : action.choosesInForm = true) :
    action.isChange = true := by
  cases action with
  | selectGroup | selectMeasure | updateForm => rfl
  | _ => cases chooses

theorem isChange_of_gridRequest? {request : Grid.Request}
    (asks : state.gridRequest? name action = some request) : action.isChange = true := by
  cases action with
  | addWidget | removeWidget | moveWidget | setShown => rfl
  | _ => cases asks

theorem save_recorded {answer : Except Failure Unit}
    (stored : backend.recorded.save name state.grid.records world = (answer, after)) :
    after.2 = world.2 ++ [.save name state.grid.records answer] := by
  cases stored
  rfl

/-- Every effect makes such calls. -/
theorem calls_of_effect
    (effect : Effect backend.recorded geometry name state world action reply next after) :
    ∃ calls, after.2 = world.2 ++ calls ∧ Calls geometry name state action reply next calls := by
  have none (call : BackendCall) (member : call ∈ []) : call.isLookup = true :=
    absurd member List.not_mem_nil
  cases effect with
  | refused needed viewed => exact ⟨[], (List.append_nil _).symm, .refused needed viewed⟩
  | entered reformed =>
      obtain ⟨calls, grown, lookups⟩ := lookups_of_asked reformed.asked
      exact ⟨calls, grown, .entered reformed.mode lookups⟩
  | reformed edited reformed chooses =>
      obtain ⟨calls, grown, lookups⟩ := lookups_of_asked reformed.asked
      exact ⟨calls, grown, .changed (isChange_of_choosesInForm chooses) edited
        (reformed.mode.trans edited) lookups⟩
  | incomplete edited =>
      exact ⟨[], (List.append_nil _).symm, .changed rfl edited edited none⟩
  | regridded edited asks =>
      exact ⟨[], (List.append_nil _).symm,
        .changed (isChange_of_gridRequest? asks) edited edited none⟩
  | unsaved edited failed => exact ⟨_, save_recorded failed, .unsaved edited⟩
  | saved edited stored loaded =>
      obtain ⟨answer, grown, made⟩ := call_of_load? loaded
      rw [save_recorded stored, List.append_assoc] at grown
      exact ⟨_, grown, .saved edited made⟩
  | cancelled loaded =>
      obtain ⟨answer, grown, made⟩ := call_of_load? loaded
      exact ⟨_, grown, .cancelled made⟩

/-!
### What the calls tell
-/

section Calls

variable {calls : List BackendCall} {other : String}
  (made : Calls geometry name state action reply next calls)
include made

/-- What needs an edit is refused, without a call, while the tab is looked at. -/
theorem Calls.refuses (viewed : state.mode = .view) (needed : action.needsEdit = true) :
    reply = .error (.notEditing name) ∧ calls = [] := by
  have looked (edited : state.mode = .edit) : False := by
    rw [viewed] at edited
    cases edited
  cases made with
  | refused => exact ⟨rfl, rfl⟩
  | entered => cases needed
  | changed _ edited => exact (looked edited).elim
  | unsaved edited => exact (looked edited).elim
  | saved edited => exact (looked edited).elim
  | cancelled => cases needed

/-- Nothing is stored but by a save of a tab that is edited, and then its records. -/
theorem Calls.stores {records : List Dashlet} {answer : Except Failure Unit}
    (member : .save other records answer ∈ calls) :
    other = name ∧ action = .save ∧ state.mode = .edit ∧ records = state.grid.records := by
  cases made with
  | refused => cases member
  | entered _ lookups => cases lookups _ member
  | changed _ _ _ lookups => cases lookups _ member
  | unsaved edited =>
      cases List.mem_singleton.mp member
      exact ⟨rfl, rfl, edited, rfl⟩
  | saved edited =>
      rcases List.mem_cons.mp member with stored | loaded
      · cases stored
        exact ⟨rfl, rfl, edited, rfl⟩
      · cases List.mem_singleton.mp loaded
  | cancelled => cases List.mem_singleton.mp member

/-- A save of a tab that is edited stores once, and loads once if that succeeds. -/
theorem Calls.saves (saving : action = .save) (edited : state.mode = .edit) :
    (∃ failure, reply = .error (.backend failure) ∧
        calls = [.save name state.grid.records (.error failure)]) ∨
      ∃ answer, reply = .ok .done ∧
        calls = [.save name state.grid.records (.ok ()), .load name answer] := by
  cases made with
  | refused _ viewed =>
      rw [edited] at viewed
      cases viewed
  | entered => cases saving
  | changed changes =>
      rw [saving] at changes
      cases changes
  | @unsaved failure => exact .inl ⟨failure, rfl, rfl⟩
  | @saved _ answer => exact .inr ⟨answer, rfl, rfl⟩
  | cancelled => cases saving

/-- The tab is loaded by the end of its edit and by nothing else, and no other tab is loaded. -/
theorem Calls.load_mem_iff :
    (∃ answer, .load other answer ∈ calls) ↔ other = name ∧ action.reloads reply = true := by
  have neither (none : ∀ answer, .load other answer ∉ calls) (stays : action.reloads reply = false) :
      (∃ answer, .load other answer ∈ calls) ↔ other = name ∧ action.reloads reply = true := by
    rw [stays]
    exact ⟨fun loads => (none loads.choose loads.choose_spec).elim, fun loads => nomatch loads.2⟩
  cases made with
  | refused => exact neither (fun answer => List.not_mem_nil) (Action.reloads_error action _)
  | entered _ lookups => exact neither (fun answer member => nomatch lookups _ member) rfl
  | changed changes _ _ lookups =>
      exact neither (fun answer member => nomatch lookups _ member)
        (Action.reloads_of_isChange changes reply)
  | unsaved => exact neither (fun answer member => nomatch List.mem_singleton.mp member) rfl
  | saved => simp [Action.reloads]
  | cancelled => simp [Action.reloads]

/-- An edit begins with its start and ends with a load, and nothing else changes the mode. -/
theorem Calls.mode :
    next.mode = if action.reloads reply then .view else
      if action = .enterEdit then .edit else state.mode := by
  cases made with
  | refused needed =>
      have noStart : action ≠ .enterEdit := by
        rintro rfl
        cases needed
      rw [Action.reloads_error, if_neg Bool.false_ne_true, if_neg noStart]
  | entered entered => exact entered
  | changed changes edited kept =>
      rw [Action.reloads_of_isChange changes, if_neg Bool.false_ne_true, kept, edited, ite_self]
  | unsaved => rfl
  | saved _ loaded => exact mode_of_ofAnswer? loaded
  | cancelled loaded => exact mode_of_ofAnswer? loaded

end Calls

end Tab

/-!
### Loading tabs
-/

namespace Board

variable {board changed : Board} {names : List String}

/-- Tabs that are loaded are looked at, and all others are as they were. -/
theorem tab?_of_initialize? {start last : σ}
    (performed : board.initialize? backend names start = some (changed, last)) :
    (∀ name ∈ names, ∃ state, changed.tab? name = some state ∧ state.mode = .view) ∧
      ∀ name, name ∉ names → changed.tab? name = board.tab? name := by
  induction names generalizing board start with
  | nil =>
      obtain ⟨rfl, rfl⟩ := Option.some.inj performed
      exact ⟨fun name member => absurd member List.not_mem_nil, fun _ _ => rfl⟩
  | cons first rest ih =>
      rw [initialize?] at performed
      split at performed
      next => cases performed
      next state middle loaded =>
        obtain ⟨among, outside⟩ := ih performed
        obtain ⟨_, answered, same⟩ := Option.map_eq_some_iff.mp loaded
        rcases same with ⟨rfl, -⟩
        constructor
        · intro name member
          by_cases again : name ∈ rest
          · exact among name again
          · obtain rfl := (List.mem_cons.mp member).resolve_right again
            refine ⟨state, ?_, Tab.mode_of_ofAnswer? answered⟩
            rw [outside name again, tab?_setTab_self]
        · intro name absent
          have apart := not_or.mp (mt List.mem_cons.mpr absent)
          rw [outside name apart.2, tab?_setTab_of_ne apart.1]

/-- Loading tabs makes one load for each name, in order, and no other call. -/
theorem calls_of_initialize?
    (performed : board.initialize? backend.recorded names world = some (changed, after)) :
    ∃ answers : List (String × Except Failure (List Dashlet)), answers.map Prod.fst = names ∧
      after.2 = world.2 ++ answers.map fun loaded => .load loaded.1 loaded.2 := by
  induction names generalizing board world with
  | nil =>
      obtain ⟨rfl, rfl⟩ := Option.some.inj performed
      exact ⟨[], rfl, (List.append_nil _).symm⟩
  | cons first rest ih =>
      rw [initialize?] at performed
      split at performed
      next => cases performed
      next state middle loaded =>
        obtain ⟨answers, order, grown⟩ := ih performed
        obtain ⟨answer, step, -⟩ := Tab.call_of_load? loaded
        refine ⟨(first, answer) :: answers, by rw [List.map_cons, order], ?_⟩
        rw [grown, step, List.append_assoc, List.map_cons, List.singleton_append]

end Board

end Recorded

end DashletBoard
