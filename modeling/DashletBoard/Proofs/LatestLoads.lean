/-
Module: DashletBoard.Proofs.LatestLoads
Purpose: A tab that is looked at is what the latest load of it made, and nothing that was done since.
Main exports: latestLoad?, Tab.AsLoaded, Board.viewed_tabs_are_as_last_loaded
-/
import DashletBoard.Proofs.RecordStores
import DashletBoard.Proofs.TabCalls

namespace DashletBoard

/-!
### The latest load of a tab
-/

/-- The answer to a call, if the call loads a tab. -/
def BackendCall.loadOf? (name : String) : BackendCall → Option (Except Failure (List Dashlet))
  | .load loaded answer => if loaded = name then some answer else none
  | _ => none

/-- What the build server answered when a tab was loaded for the last time. -/
def latestLoad? (name : String) (calls : List BackendCall) :
    Option (Except Failure (List Dashlet)) :=
  calls.reverse.findSome? (·.loadOf? name)

section Latest

variable {name other : String} {calls new : List BackendCall}

theorem latestLoad?_append :
    latestLoad? name (calls ++ new) = (latestLoad? name new).or (latestLoad? name calls) := by
  rw [latestLoad?, List.reverse_append, List.findSome?_append]
  rfl

theorem latestLoad?_load (answer : Except Failure (List Dashlet)) :
    latestLoad? name [.load name answer] = some answer := by
  simp [latestLoad?, BackendCall.loadOf?]

/-- Calls that do not load the tab leave its latest load as it is. -/
theorem latestLoad?_eq_none (others : ∀ call ∈ calls, call.loadOf? name = none) :
    latestLoad? name calls = none := by
  apply List.findSome?_eq_none_iff.mpr
  intro call member
  exact others call (List.mem_reverse.mp member)

theorem BackendCall.loadOf?_of_isLookup {call : BackendCall} (lookup : call.isLookup = true) :
    call.loadOf? name = none := by
  cases call with
  | measures | aggregation => rfl
  | _ => cases lookup

theorem BackendCall.loadOf?_of_ne (distinct : other ≠ name) (answer : Except Failure (List Dashlet)) :
    (BackendCall.load name answer).loadOf? other = none := by
  simp [loadOf?, distinct.symm]

theorem latestLoad?_append_of_others (others : ∀ call ∈ new, call.loadOf? name = none) :
    latestLoad? name (calls ++ new) = latestLoad? name calls := by
  rw [latestLoad?_append, latestLoad?_eq_none others, Option.none_or]

end Latest

namespace Tab

variable {geometry : Geometry} {name other : String} {state next : Tab} {action : Action}
  {reply : BoardReply} {calls new : List BackendCall}

/-!
### Tabs as they were loaded

A tab is known because it was loaded.  While it is looked at, it is exactly the tab that the answer to
its latest load makes.  Only the start of an edit lets it be anything else, and an edit ends with a load.
-/

/-- A tab has been loaded, and it is what the latest load of it made unless it is edited. -/
def AsLoaded (geometry : Geometry) (name : String) (calls : List BackendCall) (state : Tab) : Prop :=
  ∃ answer, latestLoad? name calls = some answer ∧
    (state.mode = .view → ofAnswer? name geometry answer = some state)

theorem AsLoaded.of_load {answer : Except Failure (List Dashlet)}
    (loaded : ofAnswer? name geometry answer = some state) :
    state.AsLoaded geometry name (calls ++ [.load name answer]) := by
  refine ⟨answer, ?_, fun _ => loaded⟩
  rw [latestLoad?_append, latestLoad?_load, Option.some_or]

/-- A tab that is edited needs only to have been loaded at some time. -/
theorem AsLoaded.edited (asLoaded : state.AsLoaded geometry name calls) (edited : next.mode = .edit)
    (others : ∀ call ∈ new, call.loadOf? name = none) :
    next.AsLoaded geometry name (calls ++ new) := by
  obtain ⟨answer, latest, -⟩ := asLoaded
  refine ⟨answer, (latestLoad?_append_of_others others).trans latest, fun viewed => ?_⟩
  rw [edited] at viewed
  cases viewed

/-- Calls that load other tabs at most change nothing for a tab. -/
theorem AsLoaded.append (asLoaded : state.AsLoaded geometry name calls)
    (others : ∀ call ∈ new, call.loadOf? name = none) :
    state.AsLoaded geometry name (calls ++ new) := by
  obtain ⟨answer, latest, made⟩ := asLoaded
  exact ⟨answer, (latestLoad?_append_of_others others).trans latest, made⟩

/-- Whatever calls an operation on a tab makes, the tab is as they loaded it. -/
theorem AsLoaded.after (asLoaded : state.AsLoaded geometry name calls)
    (made : Calls geometry name state action reply next new) :
    next.AsLoaded geometry name (calls ++ new) := by
  cases made with
  | refused => exact asLoaded.append fun call member => absurd member List.not_mem_nil
  | entered entered lookups =>
      exact asLoaded.edited entered fun call member =>
        BackendCall.loadOf?_of_isLookup (lookups call member)
  | changed _ _ kept lookups =>
      exact asLoaded.edited kept fun call member =>
        BackendCall.loadOf?_of_isLookup (lookups call member)
  | unsaved edited => exact asLoaded.edited edited (List.forall_mem_singleton.mpr rfl)
  | @saved _ answer edited loaded =>
      have last : calls ++ [.save name state.grid.records (.ok ()), .load name answer] =
          (calls ++ [.save name state.grid.records (.ok ())]) ++ [.load name answer] := by
        rw [List.append_assoc, List.singleton_append]
      rw [last]
      exact .of_load loaded
  | cancelled loaded => exact .of_load loaded

/-- The calls of an operation on one tab load no other tab. -/
theorem Calls.load_no_other (made : Calls geometry name state action reply next new)
    (distinct : other ≠ name) : ∀ call ∈ new, call.loadOf? other = none := by
  have elsewhere := BackendCall.loadOf?_of_ne distinct
  cases made with
  | refused => exact fun call member => absurd member List.not_mem_nil
  | entered _ lookups | changed _ _ _ lookups =>
      exact fun call member => BackendCall.loadOf?_of_isLookup (lookups call member)
  | unsaved => exact List.forall_mem_singleton.mpr rfl
  | saved => exact List.forall_mem_cons.mpr ⟨rfl, List.forall_mem_singleton.mpr (elsewhere _)⟩
  | cancelled => exact List.forall_mem_singleton.mpr (elsewhere _)

end Tab

/-!
### Runs
-/

namespace Board

variable {σ : Type} {backend : Backend σ} {geometry : Geometry} {board : Board}

/-- All tabs of a board are as they were loaded, apart from those that are edited. -/
def AsLoaded (board : Board) (calls : List BackendCall) : Prop :=
  ∀ name state, board.tab? name = some state → state.AsLoaded board.geometry name calls

theorem AsLoaded.setTab {calls new : List BackendCall} {name : String} {state : Tab}
    (asLoaded : board.AsLoaded calls)
    (here : state.AsLoaded board.geometry name (calls ++ new))
    (others : ∀ other, other ≠ name → ∀ call ∈ new, call.loadOf? other = none) :
    (board.setTab name state).AsLoaded (calls ++ new) := by
  intro other found known
  rcases tab?_setTab_cases known with ⟨rfl, rfl⟩ | ⟨distinct, before⟩
  · exact here
  · exact (asLoaded other found before).append (others other distinct)

theorem run?_asLoaded {commands : List Command} {replies : List BoardReply} {start : σ}
    {last : σ × List BackendCall}
    (run : run? backend.recorded geometry commands (start, []) = some (replies, board, last)) :
    board.geometry = geometry ∧ board.AsLoaded last.2 := by
  refine run?_keeps
    (fun (board : Board) (world : σ × List BackendCall) =>
      board.geometry = geometry ∧ board.AsLoaded world.2) ?_ ?_ ⟨rfl, ?_⟩ run
  · intro board world name state after sofar loaded
    rcases sofar with ⟨same, asLoaded⟩
    obtain ⟨answer, grown, made⟩ := Tab.call_of_load? loaded
    refine ⟨same, ?_⟩
    rw [grown]
    exact asLoaded.setTab (.of_load made) fun other distinct =>
      List.forall_mem_singleton.mpr (BackendCall.loadOf?_of_ne distinct answer)
  · intro board world name action state reply next after sofar known effect
    rcases sofar with ⟨same, asLoaded⟩
    obtain ⟨new, grown, made⟩ := Tab.calls_of_effect effect
    refine ⟨same, ?_⟩
    rw [grown]
    exact asLoaded.setTab ((asLoaded name state known).after made) fun other distinct =>
      made.load_no_other distinct
  · intro name state known
    cases known

/-- In every run, whatever the build server answers and whatever was done in it, a tab that is looked at
is in all its parts the tab that the answer to the latest load of it makes, or the failure of that load.
So nothing shows of edits that were not stored. -/
theorem viewed_tabs_are_as_last_loaded {commands : List Command} {replies : List BoardReply}
    {start last : σ} (run : run? backend geometry commands start = some (replies, board, last)) :
    ∃ calls, run? backend.recorded geometry commands (start, []) =
        some (replies, board, last, calls) ∧
      ∀ name state, board.tab? name = some state →
        ∃ answer, latestLoad? name calls = some answer ∧
          (state.mode = .view → Tab.ofAnswer? name geometry answer = some state) := by
  obtain ⟨calls, recorded⟩ := run?_recorded run
  obtain ⟨same, asLoaded⟩ := run?_asLoaded recorded
  refine ⟨calls, recorded, fun name state known => ?_⟩
  have tab := asLoaded name state known
  rw [same] at tab
  exact tab

/-- A save fails, the edit is cancelled, and the load at its end fails too.  The tab shows that failure
and no widget of the edit. -/
theorem viewed_tabs_are_as_last_loaded_timeout :
    ∃ (replies : List BoardReply) (board : Board) (last : Memory) (calls : List BackendCall)
        (state : Tab) (answer : Except Failure (List Dashlet)),
      run? Memory.backend.recorded {} [.loadTabs ["t1", "t2"], .act "t1" .enterEdit,
          .act "t1" .addWidget, .act "t1" .save, .act "t1" .cancelEdit]
          ({ Memory.crowded with script := [none, none, some "rejected", some "timeout"] }, []) =
        some (replies, board, last, calls) ∧
        board.tab? "t1" = some state ∧ state.loadError = some "timeout" ∧ state.grid.size = 0 ∧
        latestLoad? "t1" calls = some answer ∧ Tab.ofAnswer? "t1" {} answer = some state := by
  have observed : (run? Memory.backend {} [.loadTabs ["t1", "t2"], .act "t1" .enterEdit,
      .act "t1" .addWidget, .act "t1" .save, .act "t1" .cancelEdit]
      { Memory.crowded with script := [none, none, some "rejected", some "timeout"] }).map
        (fun outcome => (outcome.2.1.tab? "t1").map fun state =>
          (state.mode, state.loadError, state.grid.size)) =
      some (some (.view, some "timeout", 0)) := by rfl
  obtain ⟨⟨replies, board, last⟩, run, seen⟩ := Option.map_eq_some_iff.mp observed
  obtain ⟨state, known, shape⟩ := Option.map_eq_some_iff.mp seen
  simp only [Prod.mk.injEq] at shape
  rcases shape with ⟨viewed, loadError, size⟩
  obtain ⟨calls, recorded, asLoaded⟩ := viewed_tabs_are_as_last_loaded run
  obtain ⟨answer, latest, made⟩ := asLoaded "t1" state known
  exact ⟨replies, board, last, calls, state, answer, recorded, known, loadError, size, latest,
    made viewed⟩

end Board

end DashletBoard
