/-
Module: DashletBoard.Proofs.UntouchedSave
Purpose: What a tab that is only looked at knows of its stored records, and what a save without a change
  makes of them.
Main exports: Tab.Reflects, Tab.Reflects.effect, Board.run?_reflects,
  Board.untouched_save_keeps_records_iff, Board.untouched_save_after_failed_load_erases
-/
import DashletBoard.Proofs.BoardSoundness

namespace DashletBoard

section Stores

variable {σ : Type} {backend : Backend σ} {stored : σ → List Dashlet} {geometry : Geometry}
  {name other : String} {world after : σ} {state next : Tab} {action : Action} {reply : BoardReply}

namespace Tab

/-!
### Tabs that reflect the store

A tab that is looked at has the stored records as its widgets, some of them perhaps at other cells, or it
shows why they could not be loaded and has nothing.  An edited tab may have anything.
-/

def Reflects (records : List Dashlet) (name : String) (state : Tab) : Prop :=
  state.mode = .view →
    state.grid.dashlets.map Dashlet.unplaced =
      if state.loadError.isSome then [] else
        (records.filter (·.belongsTo name)).map Dashlet.unplaced

theorem Reflects.of_edit {records : List Dashlet} (edited : state.mode = .edit) :
    state.Reflects records name := by
  intro viewed
  rw [edited] at viewed
  cases viewed

/-- Only the records of the tab itself matter to it. -/
theorem Reflects.congr {records others : List Dashlet} (reflects : state.Reflects records name)
    (same : others.filter (·.belongsTo name) = records.filter (·.belongsTo name)) :
    state.Reflects others name := by
  intro viewed
  rw [same]
  exact reflects viewed

theorem reflects_load? (store : backend.Stores stored)
    (loaded : load? backend geometry name world = some (state, after)) :
    stored after = stored world ∧ state.Reflects (stored world) name := by
  obtain ⟨same, made | ⟨failure, made⟩⟩ := store.loaded loaded
  · refine ⟨same, fun _ => ?_⟩
    obtain ⟨settled, shape⟩ := ofAnswer?_ok made
    obtain ⟨-, -, -, placed, dashlets, contents⟩ := settleAll?_eq_some settled
    have quiet : state.loadError = none := by
      rw [shape]
      rfl
    rw [quiet, dashlets, List.nil_append, contents]
    rfl
  · refine ⟨same, fun _ => ?_⟩
    rw [ofAnswer?_error made]
    rfl

/-!
### Effects on the store
-/

theorem Reflects.effect (store : backend.Stores stored)
    (reflects : state.Reflects (stored world) name)
    (effect : Effect backend geometry name state world action reply next after) :
    next.Reflects (stored after) name := by
  cases effect with
  | refused => exact reflects
  | entered reformed => exact .of_edit reformed.mode
  | reformed edited reformed => exact .of_edit (reformed.mode.trans edited)
  | incomplete edited => exact .of_edit edited
  | regridded edited => exact .of_edit edited
  | unsaved edited => exact .of_edit edited
  | saved _ _ loaded =>
      obtain ⟨same, reflected⟩ := reflects_load? store loaded
      rw [same]
      exact reflected
  | cancelled loaded =>
      obtain ⟨same, reflected⟩ := reflects_load? store loaded
      rw [same]
      exact reflected

end Tab

/-!
### Runs

Tabs are sound in every run.  So what is saved for one tab belongs to it, and no other tab is told
anything new by it.
-/

namespace Board

variable {board : Board}

def Reflects (board : Board) (records : List Dashlet) : Prop :=
  ∀ name state, board.tab? name = some state → state.Reflects records name

theorem Reflects.setTab {before records : List Dashlet} (reflects : board.Reflects before)
    (new : state.Reflects records name)
    (others : ∀ other, other ≠ name →
      records.filter (·.belongsTo other) = before.filter (·.belongsTo other)) :
    (board.setTab name state).Reflects records := by
  intro other found known
  rcases tab?_setTab_cases known with ⟨rfl, rfl⟩ | ⟨distinct, before⟩
  · exact new
  · exact (reflects other found before).congr (others other distinct)

theorem run?_reflects (store : backend.Stores stored) {commands : List Command}
    {replies : List BoardReply} {start last : σ}
    (run : run? backend geometry commands start = some (replies, board, last)) :
    board.Reflects (stored last) := by
  have kept : board.Sound ∧ board.Reflects (stored last) := by
    refine run?_keeps
      (fun (board : Board) (world : σ) => board.Sound ∧ board.Reflects (stored world))
      ?_ ?_ ⟨?_, ?_⟩ run
    · intro board world name state after sofar loaded
      rcases sofar with ⟨sound, reflects⟩
      obtain ⟨same, reflected⟩ := Tab.reflects_load? store loaded
      rw [same]
      exact ⟨sound.setTab (Tab.sound_load? loaded), reflects.setTab reflected fun _ _ => rfl⟩
    · intro board world name action state reply next after sofar known effect
      rcases sofar with ⟨sound, reflects⟩
      have tab := sound name state known
      have reflected := (reflects name state known).effect store effect
      constructor
      · exact sound.setTab (tab.effect effect)
      · apply reflects.setTab reflected
        intro other distinct
        exact tab.others_kept store effect distinct
    · intro name state known
      cases known
    · intro name state known
      cases known
  exact kept.2

/-!
### Saving without a change
-/

/-- What a save stores right after the start of an edit are the widgets that the tab had. -/
theorem stored_of_untouched_save (store : backend.Stores stored) {start world middle after : σ}
    {commands : List Command} {replies : List BoardReply} {editing last : Board}
    (run : run? backend geometry commands start = some (replies, board, world))
    (known : board.tab? name = some state) (viewed : state.mode = .view)
    (entered : board.act? backend name .enterEdit world = some (.ok .done, editing, middle))
    (saved : editing.act? backend name .save middle = some (.ok .done, last, after)) :
    (stored after).filter (·.belongsTo name) = state.grid.records := by
  have sound : state.Sound board.geometry name := sound_of_run? run name state known
  obtain ⟨edited, rfl, tabEntered⟩ := tab_of_act? known entered
  have reformed := Tab.entered_of_act? viewed tabEntered
  obtain ⟨next, -, tabSaved⟩ := tab_of_act? tab?_setTab_self saved
  rw [Tab.act?_save reformed.mode] at tabSaved
  have same : edited.grid = state.grid := reformed.grid
  rcases Tab.save?_eq_some tabSaved with ⟨failure, -, reply, -⟩ | ⟨stores, submitted, -, loaded⟩
  · cases reply
  · rw [same] at submitted
    rw [(store.loaded loaded).1]
    exact store.own_of_saved submitted sound.records_owned

/-- A store of records is changed by nothing but saves of a board, while any call to it may fail.  On a
board that any run has left, a tab is looked at; then its edit begins and it is saved at once.  The tab
has the records that it had before, apart from their cells, exactly if its last load did not fail or there
was nothing to lose.  After a load that failed, all its records are lost. -/
theorem untouched_save_keeps_records_iff (store : backend.Stores stored)
    {start world middle after : σ} {commands : List Command} {replies : List BoardReply}
    {editing last : Board}
    (run : run? backend geometry commands start = some (replies, board, world))
    (known : board.tab? name = some state) (viewed : state.mode = .view)
    (entered : board.act? backend name .enterEdit world = some (.ok .done, editing, middle))
    (saved : editing.act? backend name .save middle = some (.ok .done, last, after)) :
    ((((stored after).filter (·.belongsTo name)).map Dashlet.unplaced).Perm
        (((stored world).filter (·.belongsTo name)).map Dashlet.unplaced) ↔
      state.loadError = none ∨ (stored world).filter (·.belongsTo name) = []) ∧
    (state.loadError ≠ none → (stored after).filter (·.belongsTo name) = []) := by
  have sound : state.Sound board.geometry name := sound_of_run? run name state known
  have reflects := run?_reflects store run name state known viewed
  rw [stored_of_untouched_save store run known viewed entered saved, sound.records_eq]
  have widgets := (canonicalOrder_perm state.grid.dashlets).map Dashlet.unplaced
  cases failed : state.loadError with
  | none =>
      rw [failed] at reflects
      have kept := widgets.trans (.of_eq reflects)
      exact ⟨⟨fun _ => .inl rfl, fun _ => kept⟩, fun absent => absurd rfl absent⟩
  | some cause =>
      rw [failed] at reflects
      have empty : state.grid.dashlets = [] := List.map_eq_nil_iff.mp reflects
      rw [empty]
      refine ⟨⟨fun kept => .inr ?_, ?_⟩, fun _ => rfl⟩
      · exact List.map_eq_nil_iff.mp kept.symm.eq_nil
      · intro safe
        rcases safe with absent | nothing
        · cases absent
        · rw [nothing]
          rfl

/-- The first load fails and the second one does not, so that a save then loses nothing. -/
theorem untouched_save_keeps_records_iff_crowded :
    ∃ (board editing last : Board) (world middle after : Memory),
      (∃ replies, run? Memory.backend {} [.loadTabs ["t1"], .act "t1" .cancelEdit]
          { Memory.crowded with script := [some "timeout"] } = some (replies, board, world)) ∧
        board.act? Memory.backend "t1" .enterEdit world = some (.ok .done, editing, middle) ∧
        editing.act? Memory.backend "t1" .save middle = some (.ok .done, last, after) ∧
        ((after.records.filter (·.belongsTo "t1")).map Dashlet.unplaced).Perm
          ((world.records.filter (·.belongsTo "t1")).map Dashlet.unplaced) := by
  have observed : ((run? Memory.backend {} [.loadTabs ["t1"], .act "t1" .cancelEdit]
        { Memory.crowded with script := [some "timeout"] }).bind fun loaded =>
      (loaded.2.1.act? Memory.backend "t1" .enterEdit loaded.2.2).bind fun entered =>
        (entered.2.1.act? Memory.backend "t1" .save entered.2.2).map fun saved =>
          ((loaded.2.1.tab? "t1").map fun state => (state.mode, state.loadError),
            entered.1, saved.1)) =
      some (some (.view, none), .ok .done, .ok .done) := by rfl
  obtain ⟨⟨replies, board, world⟩, run, observed⟩ := Option.bind_eq_some_iff.mp observed
  obtain ⟨⟨entered, editing, middle⟩, enter, observed⟩ := Option.bind_eq_some_iff.mp observed
  obtain ⟨⟨saved, last, after⟩, save, seen⟩ := Option.map_eq_some_iff.mp observed
  simp only [Prod.mk.injEq, Option.map_eq_some_iff] at seen
  rcases seen with ⟨⟨state, known, viewed, loadError⟩, rfl, rfl⟩
  have kept := untouched_save_keeps_records_iff Memory.stores run known viewed enter save
  exact ⟨board, editing, last, world, middle, after, ⟨replies, run⟩, enter, save,
    kept.1.2 (.inl loadError)⟩

/-- The only load before the edit fails, and the save then erases the two records of the tab. -/
theorem untouched_save_after_failed_load_erases :
    ∃ world after : Memory,
      (run? Memory.backend {} [.loadTabs ["t1"]]
          { Memory.crowded with script := [some "timeout"] }).map
          (fun loaded => ((loaded.2.1.tab? "t1").map Tab.mode, loaded.2.2)) =
        some (some .view, world) ∧
      (run? Memory.backend {} [.loadTabs ["t1"], .act "t1" .enterEdit, .act "t1" .save]
          { Memory.crowded with script := [some "timeout"] }).map
          (fun saved => (saved.1, saved.2.2)) =
        some ([.ok .done, .ok .done, .ok .done], after) ∧
      ¬ ((after.records.filter (·.belongsTo "t1")).map Dashlet.unplaced).Perm
          ((world.records.filter (·.belongsTo "t1")).map Dashlet.unplaced) := by
  let others := Memory.crowded.records.filter fun d => !d.belongsTo "t1"
  refine ⟨.crowded, { Memory.crowded with records := others }, by rfl, by rfl, ?_⟩
  intro same
  have count : 0 = 2 := same.length_eq
  cases count

end Board

end Stores

end DashletBoard
