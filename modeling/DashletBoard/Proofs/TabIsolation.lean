/-
Module: DashletBoard.Proofs.TabIsolation
Purpose: Tabs do not see each other: what is done on one tab has the same results and leaves the same tab
  and the same records, whatever is done on other tabs in between.
Main exports: Backend.sifted, Tab.Sound.act?_own, Board.only, Visit, Board.visit?, Board.visits_separate,
  Board.tabs_are_isolated
-/
import DashletBoard.Proofs.SeparateParts
import DashletBoard.Proofs.UntouchedSave

namespace DashletBoard

/-!
### The records of one tab

All tabs share one list of records.  A tab gives and takes only its own ones, so it may as well be
connected to a build server that knows no others.
-/

section Sifted

variable {σ : Type} {backend : Backend σ} {geometry : Geometry} {name : String}

/-- The build server as one tab sees it: it gives and takes only the records of the tab. -/
def Backend.sifted (backend : Backend σ) (tab : String) : Backend σ where
  load _ world :=
    let (answer, after) := backend.load tab world
    (answer.map fun records => records.filter (·.belongsTo tab), after)
  save _ records world := backend.save tab (records.filter (·.belongsTo tab)) world
  measures _ group world := backend.measures tab group world
  aggregation _ group measure world := backend.aggregation tab group measure world

namespace Tab

theorem ofAnswer?_sifted (answer : Except Failure (List Dashlet)) :
    ofAnswer? name geometry (answer.map fun records => records.filter (·.belongsTo name)) =
      ofAnswer? name geometry answer := by
  cases answer with
  | error failure => rfl
  | ok records => simp only [Except.map, ofAnswer?, List.filter_filter, Bool.and_self]

theorem load?_sifted (world : σ) :
    load? (backend.sifted name) geometry name world = load? backend geometry name world := by
  simp only [load?, Backend.sifted, ofAnswer?_sifted]

theorem reload?_sifted (world : σ) :
    reload? (backend.sifted name) geometry name world = reload? backend geometry name world := by
  rw [reload?, reload?, load?_sifted]

theorem Sound.save?_sifted {state : Tab} (sound : state.Sound geometry name) (world : σ) :
    state.save? (backend.sifted name) geometry name world =
      state.save? backend geometry name world := by
  simp only [save?, Backend.sifted, filter_belongsTo_of_owned sound.records_owned]
  split
  · rfl
  · exact reload?_sifted _

/-- An operation on a tab that is sound does not notice that all other records are kept from it. -/
theorem Sound.act?_sifted {state : Tab} (sound : state.Sound geometry name) (action : Action)
    (world : σ) :
    state.act? (backend.sifted name) geometry name action world =
      state.act? backend geometry name action world := by
  cases action with
  | cancelEdit => simp only [act?, reload?_sifted]
  | save => simp only [act?, sound.save?_sifted]
  | _ => rfl

end Tab

/-- For one tab, a store with fixed tables shows as the store of its own records. -/
theorem Tables.sifted_shows (tables : Tables) (name : String) :
    (tables.backend.sifted name).Shows (fun stored => stored.filter (·.belongsTo name))
      (tables.backend.sifted name) := by
  constructor
  · intro _ stored
    simp only [Backend.sifted, Tables.backend]
    split
    · rfl
    · simp [Except.map]
  · intro _ records stored
    simp only [Backend.sifted, Tables.backend]
    split
    · rfl
    · simp [List.filter_filter]
  · exact fun _ _ _ => rfl
  · exact fun _ _ _ _ => rfl

/-- What an operation does to a tab and to the records of the tab is told by these alone. -/
theorem Tab.Sound.act?_own {state : Tab} (sound : state.Sound geometry name) (tables : Tables)
    (action : Action) (stored : List Dashlet) :
    (state.act? tables.backend geometry name action stored).map
        (viewed fun stored => stored.filter (·.belongsTo name)) =
      state.act? tables.backend geometry name action (stored.filter (·.belongsTo name)) := by
  have shown := act?_viewed (tables.sifted_shows name) geometry name action state stored
  rw [sound.act?_sifted, sound.act?_sifted] at shown
  exact shown

end Sifted

/-!
### Visits
-/

/-- What can be asked of one tab: an operation, or its view. -/
inductive Visit where
  | act (action : Action)
  | view
deriving Repr, DecidableEq

/-- What a visit of a tab gives back. -/
inductive VisitReply where
  | did (reply : BoardReply)
  | shown (view : Except LayoutError TabView)

namespace Board

variable {σ : Type} {backend : Backend σ} {geometry : Geometry} {board changed : Board}
  {name other : String} {world after : σ}

/-- Answers a visit of the tab of a name. -/
def visit? (backend : Backend σ) (place : Board × σ) :
    String × Visit → Option ((String × VisitReply) × Board × σ)
  | (name, .act action) =>
      (place.1.act? backend name action place.2).map fun (reply, place) =>
        ((name, .did reply), place)
  | (name, .view) => some ((name, .shown (place.1.view name)), place)

/-- Answers visits of tabs in order. -/
def visits? (backend : Backend σ) (place : Board × σ) (requests : List (String × Visit)) :
    Option (List (String × VisitReply) × Board × σ) :=
  answerAll? (visit? backend) place requests

section Visits

variable {place next : Board × σ} {request : String × Visit} {response : String × VisitReply}
  (answered : visit? backend place request = some (response, next))
include answered

/-- A visit gives its name back, and it changes nothing or has an effect on the tab of this name. -/
theorem effect_of_visit? :
    response.1 = request.1 ∧
      (next = place ∨ ∃ state action reply tab, place.1.tab? request.1 = some state ∧
        next.1 = place.1.setTab request.1 tab ∧
        Tab.Effect backend place.1.geometry request.1 state place.2 action reply tab next.2) := by
  rcases request with ⟨name, action | _⟩
  · obtain ⟨⟨reply, changed, after⟩, acted, same⟩ := Option.map_eq_some_iff.mp answered
    rcases same with ⟨rfl, rfl⟩
    rcases effect_of_act? acted with ⟨-, -, rfl, rfl⟩ | ⟨state, tab, known, rfl, -, effect⟩
    · exact ⟨rfl, .inl rfl⟩
    · exact ⟨rfl, .inr ⟨state, action, reply, tab, known, rfl, effect⟩⟩
  · obtain ⟨rfl, rfl⟩ := Prod.mk.inj (Option.some.inj answered)
    exact ⟨rfl, .inl rfl⟩

theorem tab?_of_visit? (distinct : other ≠ request.1) : next.1.tab? other = place.1.tab? other := by
  rcases (effect_of_visit? answered).2 with rfl | ⟨_, _, _, tab, -, same, -⟩
  · rfl
  · rw [same, tab?_setTab_of_ne distinct]

theorem isSome_tab?_of_visit? (other : String) :
    (next.1.tab? other).isSome = (place.1.tab? other).isSome := by
  by_cases here : other = request.1
  · rcases (effect_of_visit? answered).2 with rfl | ⟨state, _, _, tab, known, same, -⟩
    · rfl
    · rw [here, same, known, tab?_setTab_self]
      rfl
  · rw [tab?_of_visit? answered here]

end Visits

/-!
### Boards with one tab
-/

/-- The board without all tabs but one. -/
def only (board : Board) (name : String) : Board :=
  match board.tab? name with
  | some state => { board with tabs := Dictionary.empty.insert name state }
  | none => { board with tabs := .empty }

@[simp] theorem only_geometry : (board.only name).geometry = board.geometry := by
  rw [only]
  split <;> rfl

@[simp] theorem tab?_only_self : (board.only name).tab? name = board.tab? name := by
  rw [only]
  split
  next known => rw [known, tab?, Dictionary.get?_insert_self]
  next unknown => rw [unknown, tab?, Dictionary.get?_empty]

theorem tab?_only_of_ne (distinct : other ≠ name) : (board.only name).tab? other = none := by
  rw [only]
  split
  · rw [tab?, Dictionary.get?_insert_of_ne _ _ distinct, Dictionary.get?_empty]
  · rw [tab?, Dictionary.get?_empty]

/-- A board with one tab is told by its geometry and this tab. -/
theorem only_eq_only (geometry : changed.geometry = board.geometry)
    (tab : changed.tab? name = board.tab? name) : changed.only name = board.only name := by
  simp only [only, tab, geometry]

theorem only_setTab_self (state : Tab) :
    (board.setTab name state).only name = (board.only name).setTab name state := by
  refine ext_tab? (by simp [setTab]) fun other => ?_
  by_cases here : other = name
  · subst here
    rw [tab?_only_self, tab?_setTab_self, tab?_setTab_self]
  · rw [tab?_only_of_ne here, tab?_setTab_of_ne here, tab?_only_of_ne here]

theorem only_setTab_of_ne (distinct : other ≠ name) (state : Tab) :
    (board.setTab name state).only other = board.only other :=
  only_eq_only rfl (tab?_setTab_of_ne distinct)

/-- One tab of a board, and the records of the tab. -/
def onlyTab (name : String) (place : Board × List Dashlet) : Board × List Dashlet :=
  (place.1.only name, place.2.filter (·.belongsTo name))

/-- What an operation does to a tab and to its records, it does on a board with this tab only. -/
theorem act?_own (sound : board.Sound) (tables : Tables) (name : String) (action : Action)
    (stored : List Dashlet) :
    (board.act? tables.backend name action stored).map (Prod.map id (onlyTab name)) =
      (board.only name).act? tables.backend name action (stored.filter (·.belongsTo name)) := by
  simp only [act?, tab?_only_self, only_geometry]
  cases known : board.tab? name with
  | none => rfl
  | some state =>
      simp only [← (sound name state known).act?_own, Option.map_map]
      apply Option.map_congr
      intro outcome _
      simp only [Function.comp, Prod.map, id_eq, onlyTab, only_setTab_self, viewed]

theorem view_only (name : String) : (board.only name).view name = board.view name := by
  rw [view, view, tab?_only_self]

/-- The tabs of a board, each with its records, are separate. -/
theorem visits_separate (tables : Tables) :
    SeparateParts (visit? tables.backend) onlyTab fun place => place.1.Sound where
  keeps := by
    intro place request response next sound answered
    rcases effect_of_visit? answered with ⟨-, rfl | ⟨state, _, _, tab, known, same, effect⟩⟩
    · exact sound
    · rw [same]
      exact sound.setTab ((sound _ state known).effect effect)
  addressed := by
    intro place request response next answered
    exact (effect_of_visit? answered).1
  own := by
    intro place request sound
    rcases request with ⟨name, action | _⟩
    · simp only [visit?, onlyTab, ← act?_own sound tables name action, Option.map_map]
      rfl
    · simp only [visit?, onlyTab, view_only]
      rfl
  others := by
    intro place request response next other sound answered distinct
    rcases effect_of_visit? answered with ⟨-, rfl | ⟨state, _, _, tab, known, same, effect⟩⟩
    · rfl
    · have kept := (sound _ state known).others_kept tables.stores effect distinct
      rw [onlyTab, same, only_setTab_of_ne distinct]
      exact congrArg _ kept

/-- On a board that any run has left, tabs are visited in any order, over a store of records with fixed
tables.  All visits come to an end exactly if those of each tab do by themselves.  Then the visits of a
tab have the same results as without all visits of other tabs, and they leave the same tab and the same
records of the tab, in the same order.  And no visit of a tab, over any build server, changes another tab
or which tabs are known. -/
theorem tabs_are_isolated {commands : List Command} {replies : List BoardReply} {start : σ}
    (run : run? backend geometry commands start = some (replies, board, world)) (tables : Tables)
    (stored : List Dashlet) (requests : List (String × Visit)) :
    ((visits? tables.backend (board, stored) requests).isSome ↔
      ∀ name, (visits? tables.backend (board, stored) (addressedTo name requests)).isSome) ∧
    (∀ answers last after,
      visits? tables.backend (board, stored) requests = some (answers, last, after) →
      ∀ name, ∃ lastAlone afterAlone,
        visits? tables.backend (board, stored) (addressedTo name requests) =
          some (addressedTo name answers, lastAlone, afterAlone) ∧
        lastAlone.tab? name = last.tab? name ∧
        afterAlone.filter (·.belongsTo name) = after.filter (·.belongsTo name)) ∧
    ∀ (server : Backend σ) (visited changed : Board) (before after : σ) (request : String × Visit)
      (answer : String × VisitReply),
      visit? server (visited, before) request = some (answer, changed, after) →
        (∀ other, other ≠ request.1 → changed.tab? other = visited.tab? other) ∧
        ∀ other, (changed.tab? other).isSome = (visited.tab? other).isSome := by
  have separate := visits_separate tables
  have sound : board.Sound := sound_of_run? run
  refine ⟨separate.ends_iff sound, fun answers last after answered name => ?_, ?_⟩
  · obtain ⟨⟨lastAlone, afterAlone⟩, answeredAlone, same⟩ := separate.alone sound answered name
    obtain ⟨sameTab, sameRecords⟩ := Prod.mk.inj same
    refine ⟨lastAlone, afterAlone, answeredAlone, ?_, sameRecords⟩
    rw [← tab?_only_self, sameTab, tab?_only_self]
  · intro server visited changed before after request answer answered
    exact ⟨fun other => tab?_of_visit? answered, isSome_tab?_of_visit? answered⟩

/-- Two tabs are edited in turns, and the save of one of them is rejected.  The other tab is stored with
three records, as it is without the visits in between. -/
theorem tabs_are_isolated_rejecting :
    ∃ (board last lastAlone : Board) (world after afterAlone : List Dashlet)
        (answers : List (String × VisitReply)),
      (∃ replies, run? Tables.rejecting.backend {} [.loadTabs ["t1", "t2"]] Memory.crowded.records =
          some (replies, board, world)) ∧
        visits? Tables.rejecting.backend (board, world)
            [("t1", .act .enterEdit), ("t2", .act .enterEdit), ("t1", .act .addWidget),
              ("t2", .act .addWidget), ("t2", .act .save), ("t1", .act .save),
              ("t2", .act .cancelEdit), ("t1", .view)] = some (answers, last, after) ∧
        visits? Tables.rejecting.backend (board, world)
            [("t1", .act .enterEdit), ("t1", .act .addWidget), ("t1", .act .save), ("t1", .view)] =
          some (addressedTo "t1" answers, lastAlone, afterAlone) ∧
        lastAlone.tab? "t1" = last.tab? "t1" ∧
        (after.filter (·.belongsTo "t1")).length = 3 ∧
        afterAlone.filter (·.belongsTo "t1") = after.filter (·.belongsTo "t1") := by
  have observed : ((run? Tables.rejecting.backend {} [.loadTabs ["t1", "t2"]]
      Memory.crowded.records).bind fun loaded =>
        (visits? Tables.rejecting.backend (loaded.2.1, loaded.2.2)
          [("t1", .act .enterEdit), ("t2", .act .enterEdit), ("t1", .act .addWidget),
            ("t2", .act .addWidget), ("t2", .act .save), ("t1", .act .save),
            ("t2", .act .cancelEdit), ("t1", .view)]).map fun visited =>
          (visited.2.2.filter (·.belongsTo "t1")).length) = some 3 := by rfl
  obtain ⟨⟨replies, board, world⟩, run, observed⟩ := Option.bind_eq_some_iff.mp observed
  obtain ⟨⟨answers, last, after⟩, visited, count⟩ := Option.map_eq_some_iff.mp observed
  obtain ⟨lastAlone, afterAlone, alone, tab, records⟩ :=
    (tabs_are_isolated run Tables.rejecting world _).2.1 answers last after visited "t1"
  exact ⟨board, last, lastAlone, world, after, afterAlone, answers, ⟨replies, run⟩, visited, alone,
    tab, count, records⟩

end Board

end DashletBoard
