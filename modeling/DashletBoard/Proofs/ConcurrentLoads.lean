/-
Module: DashletBoard.Proofs.ConcurrentLoads
Purpose: Tabs that are loaded side by side.  While the build server does not change, it makes no difference
  how the tabs are ordered or repeated, and in which order the loads are answered and done.
Main exports: Backend.Steady, Board.Reloaded, Board.initialize?_eq_some_iff, Loading, Loading.Step,
  Loading.Run, Loading.exists_run_of_initialize?, Board.tabs_are_loaded_alike_in_any_order
-/
import Mathlib.Logic.Relation
import DashletBoard.Proofs.BoardSoundness
import DashletBoard.Proofs.RecordStores

namespace DashletBoard

variable {σ : Type} {backend : Backend σ} {holds : σ → Prop}
  {answers : String → Except Failure (List Dashlet)} {names others : List String} {world last : σ}

/-!
### A build server that does not change

Loads may leave their traces in the world, as long as they are answered alike before and afterwards.
-/

/-- In all worlds of a kind a load of a tab gets the same answer, and it leads to another world of this
kind. -/
structure Backend.Steady (backend : Backend σ) (holds : σ → Prop)
    (answers : String → Except Failure (List Dashlet)) : Prop where
  answered : ∀ {world} name, holds world → (backend.load name world).1 = answers name
  kept : ∀ {world} name, holds world → holds (backend.load name world).2

/-- Records that nobody saves are answered to every load that does not fail. -/
theorem Tables.steady (tables : Tables) (stored : List Dashlet) :
    tables.backend.Steady (· = stored) fun name =>
      match tables.loadFailure? name with
      | some failure => .error failure
      | none => .ok stored := by
  constructor
  · rintro _ name rfl
    simp only [Tables.backend]
    cases tables.loadFailure? name with
    | none => rfl
    | some failure => rfl
  · rintro _ name rfl
    simp only [Tables.backend]
    cases tables.loadFailure? name with
    | none => rfl
    | some failure => rfl

/-- One of two tabs cannot be loaded. -/
def Tables.lossy : Tables :=
  { rejecting with loadFailure? name := if name = "t2" then some (.of "timeout") else none }

namespace Board

variable {board after other : Board} {name : String} {state : Tab}

/-!
### The board that loading gives

It is told by the set of the tabs: each of them is what the answer for it makes of it, whatever it was
before, and all others are as they were.
-/

/-- A board after some tabs were loaded. -/
structure Reloaded (answers : String → Except Failure (List Dashlet)) (names : List String)
    (board after : Board) : Prop where
  geometry : after.geometry = board.geometry
  listed : ∀ name ∈ names, ∃ state,
    Tab.ofAnswer? name board.geometry (answers name) = some state ∧ after.tab? name = some state
  unlisted : ∀ name, name ∉ names → after.tab? name = board.tab? name

theorem Reloaded.congr (reloaded : Reloaded answers names board after)
    (same : ∀ name, name ∈ others ↔ name ∈ names) : Reloaded answers others board after where
  geometry := reloaded.geometry
  listed name member := reloaded.listed name ((same name).mp member)
  unlisted name absent := reloaded.unlisted name (mt (same name).mpr absent)

theorem Reloaded.unique (reloaded : Reloaded answers names board after)
    (again : Reloaded answers names board other) : other = after := by
  refine ext_tab? (again.geometry.trans reloaded.geometry.symm) fun name => ?_
  by_cases member : name ∈ names
  · obtain ⟨state, made, known⟩ := reloaded.listed name member
    obtain ⟨twin, madeAgain, knownAgain⟩ := again.listed name member
    rw [known, knownAgain, ← made, ← madeAgain]
  · rw [again.unlisted name member, reloaded.unlisted name member]

/-- After the first tab was set, the others are loaded into the board that this gives. -/
theorem Reloaded.cons (made : Tab.ofAnswer? name board.geometry (answers name) = some state)
    (rest : Reloaded answers names (board.setTab name state) after) :
    Reloaded answers (name :: names) board after where
  geometry := rest.geometry
  listed := by
    intro tab member
    by_cases again : tab ∈ names
    · exact rest.listed tab again
    · obtain rfl := (List.mem_cons.mp member).resolve_right again
      exact ⟨state, made, (rest.unlisted _ again).trans tab?_setTab_self⟩
  unlisted := by
    intro tab absent
    obtain ⟨apart, later⟩ := not_or.mp (mt List.mem_cons.mpr absent)
    exact (rest.unlisted tab later).trans (tab?_setTab_of_ne apart)

/-!
### One load after the other
-/

theorem reloaded_of_initialize? (steady : backend.Steady holds answers) (start : holds world)
    (performed : board.initialize? backend names world = some (after, last)) :
    Reloaded answers names board after := by
  induction names generalizing board world with
  | nil =>
      obtain ⟨rfl, -⟩ := Option.some.inj performed
      exact ⟨rfl, fun _ member => absurd member List.not_mem_nil, fun _ _ => rfl⟩
  | cons name rest ih =>
      rw [initialize?] at performed
      split at performed
      next => cases performed
      next state middle loaded =>
        obtain ⟨_, made, same⟩ := Option.map_eq_some_iff.mp loaded
        rcases same with ⟨rfl, rfl⟩
        rw [steady.answered name start] at made
        exact .cons made (ih (steady.kept name start) performed)

/-- Loading ends if each of the loads does. -/
theorem initialize?_isSome_of_steady (steady : backend.Steady holds answers) (start : holds world)
    (ends : ∀ name ∈ names, (Tab.ofAnswer? name board.geometry (answers name)).isSome) :
    (board.initialize? backend names world).isSome := by
  induction names generalizing board world with
  | nil => rfl
  | cons name rest ih =>
      obtain ⟨state, made⟩ := Option.isSome_iff_exists.mp (ends name List.mem_cons_self)
      have answer : backend.load name world = (answers name, (backend.load name world).2) :=
        Prod.ext (steady.answered name start) rfl
      rw [initialize?, Tab.load?_eq_some answer made]
      exact ih (steady.kept name start) fun tab member => ends tab (List.mem_cons_of_mem _ member)

/-- Tabs that are loaded one after the other give the board that is told by their set. -/
theorem initialize?_eq_some_iff (steady : backend.Steady holds answers) (start : holds world) :
    (∃ last, board.initialize? backend names world = some (after, last)) ↔
      Reloaded answers names board after := by
  constructor
  · rintro ⟨last, performed⟩
    exact reloaded_of_initialize? steady start performed
  · intro reloaded
    have ends : ∀ name ∈ names, (Tab.ofAnswer? name board.geometry (answers name)).isSome := by
      intro name member
      obtain ⟨state, made, -⟩ := reloaded.listed name member
      exact Option.isSome_of_eq_some made
    obtain ⟨⟨found, last⟩, performed⟩ :=
      Option.isSome_iff_exists.mp (initialize?_isSome_of_steady steady start ends)
    obtain rfl := reloaded.unique (reloaded_of_initialize? steady start performed)
    exact ⟨last, performed⟩

theorem map_initialize?_congr (steady : backend.Steady holds answers) (start : holds world)
    {moment : σ} (later : holds moment) (same : ∀ name, name ∈ others ↔ name ∈ names) :
    (board.initialize? backend others moment).map Prod.fst =
      (board.initialize? backend names world).map Prod.fst := by
  ext after
  have given : Reloaded answers others board after ↔ Reloaded answers names board after :=
    ⟨fun reloaded => reloaded.congr fun name => (same name).symm, fun reloaded => reloaded.congr same⟩
  rw [← initialize?_eq_some_iff steady later, ← initialize?_eq_some_iff steady start] at given
  simpa using given

end Board

/-!
### Loads side by side

Each load asks for its records at one moment, and at a later one places what it was answered.  Between
these moments others may go on, in any order.  What has been loaded is set when all loads are done, in the
order in which the tabs are listed and under the name that the loaded grid has.
-/

/-- How far the load of a tab has come. -/
inductive LoadStage where
  | waiting
  | answered (answer : Except Failure (List Dashlet))
  | done (state : Tab)

/-- Loads that go on side by side, and the world around them. -/
structure Loading (σ : Type) where
  loads : List (String × LoadStage)
  world : σ

namespace Loading

variable {geometry : Geometry} {board after : Board} {before rest : List (String × LoadStage)}
  {name : String} {stage : LoadStage} {state : Tab} {loading next : Loading σ}

/-- Loads that are done, with what they have loaded. -/
def allDone (found : List (String × Tab)) : List (String × LoadStage) :=
  found.map fun load => (load.1, .done load.2)

theorem allDone_append (found others : List (String × Tab)) :
    allDone (found ++ others) = allDone found ++ allDone others :=
  List.map_append

/-- Nothing has been asked yet. -/
def start (names : List String) (world : σ) : Loading σ :=
  ⟨names.map fun name => (name, .waiting), world⟩

/-- One of the loads goes one step further. -/
inductive Step (backend : Backend σ) (geometry : Geometry) : Loading σ → Loading σ → Prop where
  | ask (before rest : List (String × LoadStage)) (name : String) (world : σ) :
      Step backend geometry ⟨before ++ (name, .waiting) :: rest, world⟩
        ⟨before ++ (name, .answered (backend.load name world).1) :: rest, (backend.load name world).2⟩
  | place (before rest : List (String × LoadStage)) {name : String} {world : σ}
      {answer : Except Failure (List Dashlet)} {state : Tab}
      (made : Tab.ofAnswer? name geometry answer = some state) :
      Step backend geometry ⟨before ++ (name, .answered answer) :: rest, world⟩
        ⟨before ++ (name, .done state) :: rest, world⟩

/-- Any number of steps, of whichever loads. -/
abbrev Run (backend : Backend σ) (geometry : Geometry) : Loading σ → Loading σ → Prop :=
  Relation.ReflTransGen (Step backend geometry)

/-- Sets all tabs on a board, if all loads are done. -/
def setAll? (board : Board) : List (String × LoadStage) → Option Board
  | [] => some board
  | (_, .done state) :: rest => setAll? (board.setTab state.grid.dashboard state) rest
  | _ => none

/-- The board after all loads are done. -/
def board? (board : Board) (loading : Loading σ) : Option Board := setAll? board loading.loads

/-- A load has been answered, and is done, in accord with given answers. -/
def Accords (geometry : Geometry) (answers : String → Except Failure (List Dashlet)) :
    String × LoadStage → Prop
  | (_, .waiting) => True
  | (name, .answered answer) => answer = answers name
  | (name, .done state) => Tab.ofAnswer? name geometry (answers name) = some state

/-- Every one of the listed loads accords with the answers, in a world that still gives them. -/
structure Sound (holds : σ → Prop) (geometry : Geometry)
    (answers : String → Except Failure (List Dashlet)) (names : List String) (loading : Loading σ) :
    Prop where
  world : holds loading.world
  names : loading.loads.map Prod.fst = names
  accords : ∀ load ∈ loading.loads, Accords geometry answers load

theorem sound_start (began : holds world) :
    (start names world).Sound holds geometry answers names := by
  refine ⟨began, ?_, ?_⟩
  · rw [start, List.map_map]
    exact List.map_id _
  · intro load member
    obtain ⟨name, -, rfl⟩ := List.mem_map.mp member
    trivial

/-- One load may get further, if it accords with the answers then. -/
theorem Sound.replace {later : LoadStage} {moment : σ}
    (sound : Sound holds geometry answers names ⟨before ++ (name, stage) :: rest, world⟩)
    (goesOn : holds moment) (accords : Accords geometry answers (name, later)) :
    Sound holds geometry answers names ⟨before ++ (name, later) :: rest, moment⟩ := by
  refine ⟨goesOn, ?_, fun load member => ?_⟩
  · rw [← sound.names, List.map_append, List.map_append, List.map_cons, List.map_cons]
  · rcases List.mem_append.mp member with earlier | behind
    · exact sound.accords load (List.mem_append_left _ earlier)
    · rcases List.mem_cons.mp behind with rfl | behind
      · exact accords
      · exact sound.accords load (List.mem_append_right _ (List.mem_cons_of_mem _ behind))

theorem Sound.step (steady : backend.Steady holds answers)
    (sound : loading.Sound holds geometry answers names)
    (step : Step backend geometry loading next) : next.Sound holds geometry answers names := by
  cases step with
  | ask before rest name world =>
      exact sound.replace (steady.kept name sound.world) (steady.answered name sound.world)
  | @place before rest name world answer state made =>
      have accords : answer = answers name :=
        sound.accords (name, .answered answer) (List.mem_append_right _ List.mem_cons_self)
      rw [accords] at made
      exact sound.replace sound.world made

theorem Sound.run (steady : backend.Steady holds answers)
    (sound : loading.Sound holds geometry answers names) (run : Run backend geometry loading next) :
    next.Sound holds geometry answers names := by
  induction run with
  | refl => exact sound
  | tail _ step ih => exact ih.step steady step

/-- What is set in the end is what the answers make, whichever load was done first. -/
theorem reloaded_of_setAll? (accords : ∀ load ∈ rest, Accords board.geometry answers load)
    (set : setAll? board rest = some after) : board.Reloaded answers (rest.map Prod.fst) after := by
  induction rest generalizing board with
  | nil =>
      obtain rfl := Option.some.inj set
      exact ⟨rfl, fun _ member => absurd member List.not_mem_nil, fun _ _ => rfl⟩
  | cons load rest ih =>
      obtain ⟨name, stage⟩ := load
      cases stage with
      | waiting => cases set
      | answered answer => cases set
      | done state =>
          have made : Tab.ofAnswer? name board.geometry (answers name) = some state :=
            accords (name, .done state) List.mem_cons_self
          rw [setAll?, (Tab.sound_ofAnswer? made).dashboard] at set
          exact .cons made (ih (fun load member => accords load (List.mem_cons_of_mem _ member)) set)

/-!
### Getting done
-/

theorem setAll?_allDone (board : Board) (found : List (String × Tab)) :
    (setAll? board (allDone found)).isSome := by
  induction found generalizing board with
  | nil => rfl
  | cons load rest ih => exact ih _

/-- A load that accords with the answers gets done, wherever it is among the others. -/
theorem exists_run_done (steady : backend.Steady holds answers)
    (sound : Sound holds geometry answers names ⟨before ++ (name, stage) :: rest, world⟩)
    (made : Tab.ofAnswer? name geometry (answers name) = some state) :
    ∃ moment, Run backend geometry ⟨before ++ (name, stage) :: rest, world⟩
      ⟨before ++ (name, .done state) :: rest, moment⟩ := by
  have accords : Accords geometry answers (name, stage) :=
    sound.accords (name, stage) (List.mem_append_right _ List.mem_cons_self)
  cases stage with
  | waiting =>
      have answer : (backend.load name world).1 = answers name := steady.answered name sound.world
      rw [← answer] at made
      exact ⟨_, .tail (.single (.ask before rest name world)) (.place before rest made)⟩
  | answered answer =>
      have same : answer = answers name := accords
      rw [← same] at made
      exact ⟨world, .single (.place before rest made)⟩
  | done found =>
      have same : Tab.ofAnswer? name geometry (answers name) = some found := accords
      rw [made] at same
      obtain rfl := Option.some.inj same
      exact ⟨world, .refl⟩

/-- From wherever they have come to, all loads get done.  The induction is on the loads that are left;
those in front of them are done. -/
theorem exists_run_allDone (steady : backend.Steady holds answers) (found : List (String × Tab))
    (ends : ∀ load ∈ rest, (Tab.ofAnswer? load.1 geometry (answers load.1)).isSome)
    (sound : Sound holds geometry answers names ⟨allDone found ++ rest, world⟩) :
    ∃ all moment, Run backend geometry ⟨allDone found ++ rest, world⟩ ⟨allDone all, moment⟩ := by
  induction rest generalizing found world with
  | nil => exact ⟨found, world, by rw [List.append_nil]⟩
  | cons load rest ih =>
      obtain ⟨name, stage⟩ := load
      obtain ⟨state, made⟩ := Option.isSome_iff_exists.mp (ends _ List.mem_cons_self)
      obtain ⟨middle, first⟩ := exists_run_done steady sound made
      have onward : allDone found ++ (name, .done state) :: rest =
          allDone (found ++ [(name, state)]) ++ rest := by
        rw [allDone_append, List.append_assoc]
        rfl
      have next := sound.run steady first
      rw [onward] at first next
      obtain ⟨all, moment, later⟩ :=
        ih _ (fun load member => ends load (List.mem_cons_of_mem _ member)) next
      exact ⟨all, moment, first.trans later⟩

/-- Tabs that are loaded one after the other, behind loads that are done. -/
theorem run_of_initialize? (found : List (String × Tab))
    (performed : board.initialize? backend names world = some (after, last)) :
    ∃ all, Run backend board.geometry ⟨allDone found ++ (start names world).loads, world⟩
        ⟨allDone (found ++ all), last⟩ ∧
      setAll? board (allDone all) = some after := by
  induction names generalizing board world found with
  | nil =>
      obtain ⟨rfl, rfl⟩ := Option.some.inj performed
      refine ⟨[], ?_, rfl⟩
      rw [start, List.map_nil, List.append_nil, List.append_nil]
  | cons name rest ih =>
      rw [Board.initialize?] at performed
      split at performed
      next => cases performed
      next state middle loaded =>
        obtain ⟨_, made, same⟩ := Option.map_eq_some_iff.mp loaded
        rcases same with ⟨rfl, rfl⟩
        obtain ⟨all, later, set⟩ := ih (found ++ [(name, state)]) performed
        refine ⟨(name, state) :: all, ?_, ?_⟩
        · rw [allDone_append, List.append_assoc, List.append_assoc] at later
          exact .head (.ask _ _ name world) (.head (.place _ _ made) later)
        · show setAll? board ((name, .done state) :: allDone all) = some after
          rw [setAll?, (Tab.sound_ofAnswer? made).dashboard]
          exact set

/-- One load after the other is one of the orders, whatever the build server answers. -/
theorem exists_run_of_initialize?
    (performed : board.initialize? backend names world = some (after, last)) :
    ∃ loading, Run backend board.geometry (.start names world) loading ∧ loading.world = last ∧
      loading.board? board = some after := by
  obtain ⟨all, run, set⟩ := run_of_initialize? [] performed
  exact ⟨_, run, rfl, set⟩

end Loading

namespace Board

/-- While the build server does not change, loading tabs gives each of them the state that its answer makes,
whatever it was, and leaves the others alone.  So it makes no difference how the tabs are ordered or
repeated, nor in which order loads that go on side by side are asked for and done: one after the other is
one of these orders, and if it comes to an end, all of them do, with the same board. -/
theorem tabs_are_loaded_alike_in_any_order (steady : backend.Steady holds answers) (start : holds world)
    (board : Board) (names : List String) :
    (∀ after, (∃ last, board.initialize? backend names world = some (after, last)) ↔
        board.Reloaded answers names after) ∧
    ∀ others, (∀ name, name ∈ others ↔ name ∈ names) → ∀ moment, holds moment →
      (board.initialize? backend others moment).map Prod.fst =
        (board.initialize? backend names world).map Prod.fst ∧
      (∀ after last, board.initialize? backend others moment = some (after, last) →
        ∃ loading, Loading.Run backend board.geometry (.start others moment) loading ∧
          loading.world = last ∧ loading.board? board = some after) ∧
      ∀ loading, Loading.Run backend board.geometry (.start others moment) loading →
        (∀ after, loading.board? board = some after →
          ∃ last, board.initialize? backend names world = some (after, last)) ∧
        ((board.initialize? backend names world).isSome →
          ∃ finished, Loading.Run backend board.geometry loading finished ∧
            (finished.board? board).isSome) := by
  refine ⟨fun after => initialize?_eq_some_iff steady start, fun others same moment later => ?_⟩
  refine ⟨map_initialize?_congr steady start later same,
    fun after last performed => Loading.exists_run_of_initialize? performed, fun loading run => ?_⟩
  have sound := (Loading.sound_start later).run steady run
  constructor
  · intro after set
    have reloaded := Loading.reloaded_of_setAll? sound.accords set
    rw [sound.names] at reloaded
    exact (initialize?_eq_some_iff steady start).mpr (reloaded.congr fun name => (same name).symm)
  · intro ends
    obtain ⟨⟨after, last⟩, performed⟩ := Option.isSome_iff_exists.mp ends
    have reloaded := (reloaded_of_initialize? steady start performed).congr same
    have each : ∀ load ∈ loading.loads,
        (Tab.ofAnswer? load.1 board.geometry (answers load.1)).isSome := by
      intro load member
      have listed : load.1 ∈ others := sound.names ▸ List.mem_map_of_mem member
      obtain ⟨state, made, -⟩ := reloaded.listed load.1 listed
      exact Option.isSome_of_eq_some made
    obtain ⟨all, last, done⟩ := Loading.exists_run_allDone steady [] each sound
    exact ⟨_, done, Loading.setAll?_allDone board all⟩

/-- A board on which one tab is edited and another one is looked at. -/
def busy : Board :=
  (({ geometry := {} } : Board).setTab "t1" { Tab.fresh "t1" {} with mode := .edit }).setTab "t3"
    (Tab.fresh "t3" {})

theorem tabs_are_loaded_alike_in_any_order_shuffled :
    ∃ after last,
      busy.initialize? Tables.lossy.backend ["t1", "t2"] Memory.crowded.records = some (after, last) ∧
      busy.Reloaded (fun name =>
        match Tables.lossy.loadFailure? name with
        | some failure => .error failure
        | none => .ok Memory.crowded.records) ["t1", "t2"] after ∧
      (busy.initialize? Tables.lossy.backend ["t2", "t1", "t2"] Memory.crowded.records).map Prod.fst =
        some after ∧
      ∃ middle finished,
        Loading.Run Tables.lossy.backend busy.geometry
          (.start ["t2", "t1", "t2"] Memory.crowded.records) middle ∧
        middle.loads.map (fun load => load.2 matches .done _) = [false, false, true] ∧
        Loading.Run Tables.lossy.backend busy.geometry middle finished ∧
        finished.board? busy = some after := by
  have ends :
      (busy.initialize? Tables.lossy.backend ["t1", "t2"] Memory.crowded.records).isSome := by decide
  obtain ⟨⟨after, last⟩, performed⟩ := Option.isSome_iff_exists.mp ends
  obtain ⟨told, alike⟩ := tabs_are_loaded_alike_in_any_order
    (Tables.lossy.steady Memory.crowded.records) rfl busy ["t1", "t2"]
  obtain ⟨same, -, sideBySide⟩ := alike ["t2", "t1", "t2"] (by simp) Memory.crowded.records rfl
  -- The middle tab is asked for first, and the last one is done before it.
  have run : Loading.Run Tables.lossy.backend busy.geometry
      (.start ["t2", "t1", "t2"] Memory.crowded.records)
      ⟨[("t2", .waiting), ("t1", .answered (.ok Memory.crowded.records)),
        ("t2", .done { Tab.fresh "t2" {} with loadError := some "timeout" })],
        Memory.crowded.records⟩ :=
    .head (.ask [("t2", .waiting)] [("t2", .waiting)] "t1" _)
      (.head (.ask [("t2", .waiting), ("t1", .answered _)] [] "t2" _)
        (.single (.place [("t2", .waiting), ("t1", .answered _)] [] rfl)))
  obtain ⟨finished, later, set⟩ := (sideBySide _ run).2 ends
  obtain ⟨found, shown⟩ := Option.isSome_iff_exists.mp set
  obtain ⟨_, again⟩ := (sideBySide finished (run.trans later)).1 found shown
  rw [performed] at again
  cases again
  refine ⟨after, last, performed, (told after).mp ⟨last, performed⟩, ?_, _, finished, run, rfl, later,
    shown⟩
  rw [same, performed]
  rfl

end Board

end DashletBoard
