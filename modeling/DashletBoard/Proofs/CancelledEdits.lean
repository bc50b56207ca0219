/-
Module: DashletBoard.Proofs.CancelledEdits
Purpose: An edit that is cancelled leaves no trace, neither on the board nor in the store nor in anything
  that is done later.
Main exports: Tab.Effect.stored_eq, Board.tab_of_session, Board.stored_of_session,
  Board.later_runs_agree, Board.cancelled_edits_leave_no_trace
-/
import DashletBoard.Proofs.LatestLoads

namespace DashletBoard

/-- A store with fixed tables that takes no records of one tab, and that knows the aggregation of one
measure but not of another. -/
def Tables.faltering : Tables :=
  { Tables.rejecting with
    aggregation := fun _ _ measure => if measure = "mem" then .error (.of "timeout") else .ok "Max" }

section Sessions

variable {σ : Type} {backend : Backend σ} {stored : σ → List Dashlet} {geometry : Geometry}
  {name : String} {world middle after : σ} {state next : Tab}

/-!
### One operation

Nothing but a save that was stored changes the records.
-/

theorem Tab.Effect.stored_eq {action : Action} {reply : BoardReply} (store : backend.Stores stored)
    (effect : Effect backend geometry name state world action reply next after)
    (unsaved : action = .save → ∃ error, reply = .error error) : stored after = stored world := by
  cases effect with
  | refused | incomplete | regridded => rfl
  | entered reformed => exact store.asked reformed.asked
  | reformed _ reformed => exact store.asked reformed.asked
  | unsaved _ failed => exact store.unsaved failed
  | saved =>
      obtain ⟨error, failed⟩ := unsaved rfl
      cases failed
  | cancelled loaded => exact (store.loaded loaded).1

/-- The end of an edit gives the tab that the answer to a load makes, whatever the edit has left. -/
theorem Tab.act?_cancelEdit (state : Tab) {answer : Except Failure (List Dashlet)}
    (answered : (backend.load name world).1 = answer)
    (made : ofAnswer? name geometry answer = some next) :
    state.act? backend geometry name .cancelEdit world =
      some (.ok .done, next, (backend.load name world).2) := by
  have loaded : load? backend geometry name world = some (next, (backend.load name world).2) :=
    load?_eq_some rfl (answered ▸ made)
  simp [act?, Action.needsEdit, reload?, loaded]

namespace Board

variable {board changed : Board} {actions : List Action} {replies : List BoardReply}

/-!
### Sessions on one tab
-/

/-- A session on a tab changes no other tab. -/
theorem tab_of_session (known : board.tab? name = some state)
    (session : answerAll? (perform? backend) (board, world) (actions.map (.act name)) =
      some (replies, changed, after)) :
    ∃ last, changed = board.setTab name last := by
  induction actions generalizing board state world replies with
  | nil =>
      obtain ⟨-, rfl, -⟩ := Option.some.inj session
      exact ⟨state, (setTab_eq_self known).symm⟩
  | cons action rest ih =>
      obtain ⟨reply, ⟨_, between⟩, others, performed, restSession, rfl⟩ :=
        answerAll?_cons_eq_some.mp session
      obtain ⟨next, rfl, -⟩ := tab_of_act? known performed
      obtain ⟨last, rfl⟩ := ih tab?_setTab_self restSession
      exact ⟨last, setTab_setTab board name next last⟩

/-- A session in which no save is stored leaves the records as they were. -/
theorem stored_of_session (store : backend.Stores stored)
    (session : answerAll? (perform? backend) (board, world) (actions.map (.act name)) =
      some (replies, changed, after))
    (unsaved : ∀ done ∈ actions.zip replies, done.1 = .save → ∃ error, done.2 = .error error) :
    stored after = stored world := by
  induction actions generalizing board world replies with
  | nil =>
      obtain ⟨-, -, rfl⟩ := Option.some.inj session
      rfl
  | cons action rest ih =>
      obtain ⟨reply, ⟨_, between⟩, others, performed, restSession, rfl⟩ :=
        answerAll?_cons_eq_some.mp session
      rw [List.zip_cons_cons, List.forall_mem_cons] at unsaved
      obtain ⟨first, rest⟩ := unsaved
      have kept : stored between = stored world := by
        rcases effect_of_act? performed with ⟨-, -, -, rfl⟩ | ⟨_, _, -, -, -, effect⟩
        · rfl
        · exact effect.stored_eq store first
      exact (ih restSession rest).trans kept

/-!
### What comes later
-/

/-- If a build server answers by the stored records alone, then nothing that is done later can tell two
worlds with the same records apart. -/
theorem later_runs_agree {records : Backend (List Dashlet)} (shows : backend.Shows stored records)
    (same : stored after = stored world) (board : Board) (commands : List Command) :
    (answerAll? (perform? backend) (board, after) commands).map (viewed stored) =
      (answerAll? (perform? backend) (board, world) commands).map (viewed stored) := by
  have told (world : σ) :
      (answerAll? (perform? backend) (board, world) commands).map (viewed stored) =
        answerAll? (perform? records) (board, stored world) commands :=
    answerAll?_agrees (Prod.map id stored) (fun {_ _ _ _} (_ : True) _ => trivial)
      (fun {place} command _ => perform?_viewed shows place command) commands trivial
  rw [told, told, same]

/-- On a board that any run has left, a tab is looked at.  Whatever is done on the tab then, and whatever
fails, as long as no save of it is stored the records are as they were.  If the build server still gives
the answer that the tab was last loaded from, the end of the edit succeeds and leaves exactly the board
and the records that there were before.  So nothing that is done later has another reply or result. -/
theorem cancelled_edits_leave_no_trace (store : backend.Stores stored) {commands : List Command}
    {earlier : List BoardReply} {start : σ} {calls : List BackendCall}
    {answer : Except Failure (List Dashlet)}
    (run : run? backend.recorded geometry commands (start, []) = some (earlier, board, world, calls))
    (known : board.tab? name = some state) (looked : state.mode = .view)
    (latest : latestLoad? name calls = some answer)
    (session : answerAll? (perform? backend) (board, world) (actions.map (.act name)) =
      some (replies, changed, middle))
    (unsaved : ∀ done ∈ actions.zip replies, done.1 = .save → ∃ error, done.2 = .error error)
    (still : stored middle = stored world → (backend.load name middle).1 = answer) :
    ∃ after, perform? backend (changed, middle) (.act name .cancelEdit) =
        some (.ok .done, board, after) ∧
      stored after = stored world ∧
      ∀ records : Backend (List Dashlet), backend.Shows stored records → ∀ later,
        (answerAll? (perform? backend) (board, after) later).map (viewed stored) =
          (answerAll? (perform? backend) (board, world) later).map (viewed stored) := by
  have kept : stored middle = stored world := stored_of_session store session unsaved
  have made : Tab.ofAnswer? name board.geometry answer = some state := by
    obtain ⟨_, sameLatest, made⟩ := (run?_asLoaded run).2 name state known
    rw [latest] at sameLatest
    obtain rfl := Option.some.inj sameLatest
    exact made looked
  obtain ⟨last, rfl⟩ := tab_of_session known session
  have restored : (board.setTab name last).setTab name state = board := by
    rw [setTab_setTab, setTab_eq_self known]
  have cancelled : perform? backend (board.setTab name last, middle) (.act name .cancelEdit) =
      some (.ok .done, board, (backend.load name middle).2) := by
    have acted : last.act? backend (board.setTab name last).geometry name .cancelEdit middle =
        some (.ok .done, state, (backend.load name middle).2) :=
      Tab.act?_cancelEdit last (still kept) made
    rw [perform?, act?, tab?_setTab_self]
    simp only [acted, Option.map_some, restored]
  have same : stored (backend.load name middle).2 = stored world :=
    (store.load_keeps name middle).trans kept
  exact ⟨_, cancelled, same, fun records shows later => later_runs_agree shows same board later⟩

/-- A group is chosen, the lookup for a measure of it fails, a widget is moved and another one added, and
the store rejects the save.  The end of the edit leaves the board as it was before, and a later save of
another tab has the same replies and stores the same records. -/
theorem cancelled_edits_leave_no_trace_rejected :
    ∃ (board changed : Board) (world middle after : List Dashlet) (replies : List BoardReply),
      (∃ calls, run? Tables.faltering.backend.recorded {} [.loadTabs ["t1", "t2"]]
          (Memory.crowded.records, []) = some ([.ok .done], board, world, calls)) ∧
        answerAll? (perform? Tables.faltering.backend) (board, world)
            ([.enterEdit, .updateForm { measureGroup := some "Host Health" },
              .updateForm { measure := some "mem" }, .moveWidget ⟨1, 1⟩ ⟨5, 7⟩, .addWidget,
              .save].map (.act "t2")) = some (replies, changed, middle) ∧
        replies = [.ok .done, .ok .done, .error (.backend (.of "timeout")), .ok .done,
          .ok (.placed ⟨1, 1⟩), .error (.backend (.of "rejected"))] ∧
        perform? Tables.faltering.backend (changed, middle) (.act "t2" .cancelEdit) =
          some (.ok .done, board, after) ∧
        (answerAll? (perform? Tables.faltering.backend) (board, after)
            [.act "t1" .enterEdit, .act "t1" .save]).map (viewed id) =
          (answerAll? (perform? Tables.faltering.backend) (board, world)
            [.act "t1" .enterEdit, .act "t1" .save]).map (viewed id) := by
  have observed : ((run? Tables.faltering.backend.recorded {} [.loadTabs ["t1", "t2"]]
      (Memory.crowded.records, [])).bind fun loaded =>
        (answerAll? (perform? Tables.faltering.backend) (loaded.2.1, loaded.2.2.1)
          ([.enterEdit, .updateForm { measureGroup := some "Host Health" },
            .updateForm { measure := some "mem" }, .moveWidget ⟨1, 1⟩ ⟨5, 7⟩, .addWidget,
            .save].map (.act "t2"))).map fun edited =>
          ((loaded.1, (loaded.2.1.tab? "t2").map Tab.mode, latestLoad? "t2" loaded.2.2.2), edited.1,
            edited.2.2)) =
      some (([.ok .done], some .view, some (.ok Memory.crowded.records)),
        [.ok .done, .ok .done, .error (.backend (.of "timeout")), .ok .done,
          .ok (.placed ⟨1, 1⟩), .error (.backend (.of "rejected"))],
        Memory.crowded.records) := by rfl
  obtain ⟨⟨loaded, board, world, calls⟩, run, observed⟩ := Option.bind_eq_some_iff.mp observed
  obtain ⟨⟨replies, changed, middle⟩, session, seen⟩ := Option.map_eq_some_iff.mp observed
  simp only [Prod.mk.injEq, Option.map_eq_some_iff] at seen
  rcases seen with ⟨⟨rfl, ⟨state, known, looked⟩, latest⟩, rfl, rfl⟩
  obtain ⟨after, cancelled, -, later⟩ := cancelled_edits_leave_no_trace Tables.faltering.stores run
    known looked latest session (by simp) (fun _ => rfl)
  exact ⟨board, changed, world, _, after, _, ⟨calls, run⟩, session, rfl, cancelled,
    later Tables.faltering.backend ⟨fun _ _ => rfl, fun _ _ _ => rfl, fun _ _ _ => rfl,
      fun _ _ _ _ => rfl⟩ _⟩

end Board

end Sessions

end DashletBoard
