/-
Module: DashletBoard.Proofs.UndoneMoves
Purpose: Moves can be taken back: every move is undone by the move in the other direction, and a sequence of
  moves by these in reverse order.
Main exports: Grid.Move, Grid.moveAll, Grid.OnlyMoved, Grid.exchange_exchange, Grid.Distinct.move_back,
  Grid.Distinct.moveAll_back, Grid.moves_are_undone
-/
import DashletBoard.Proofs.GridPlacement

namespace DashletBoard

namespace Grid

variable {grid next last : Grid} {source target p : Position}

/-!
### Exchanging back

Exchanging two cells is the same in both directions, and it is its own inverse.
-/

theorem exchanged_comm (source target : Position) : exchanged source target = exchanged target source := by
  funext p
  simp only [exchanged]
  split_ifs with atSource atTarget
  · rw [← atSource, ← atTarget]
  · rfl
  · rfl
  · rfl

theorem exchange_comm (grid : Grid) (source target : Position) :
    grid.exchange source target = grid.exchange target source := by
  rw [exchange, exchange, exchanged_comm]

theorem exchange_exchange (grid : Grid) (source target : Position) :
    (grid.exchange source target).exchange source target = grid := by
  have returns (d : Dashlet) :
      (d.moved (exchanged source target d.position)).moved
        (exchanged source target (exchanged source target d.position)) = d := by
    rw [exchanged_exchanged]
    rfl
  simp [exchange, Function.comp_def, returns]

theorem isOccupied_exchange :
    (grid.exchange source target).isOccupied p = grid.isOccupied (exchanged source target p) := by
  rw [isOccupied, get?_exchange, Option.isSome_map, isOccupied]

theorem isOccupied_exchange_target :
    (grid.exchange source target).isOccupied target = grid.isOccupied source := by
  have comes : exchanged source target target = source := by
    simp only [exchanged, if_true]
    split_ifs with same
    · exact same
    · rfl
  rw [isOccupied_exchange, comes]

/-!
### Sequences of moves
-/

/-- A move of the widget at one position to another position. -/
structure Move where
  source : Position
  target : Position
deriving Repr, DecidableEq

/-- The move in the other direction. -/
def Move.back (move : Move) : Move := ⟨move.target, move.source⟩

/-- Makes moves one after the other, up to the first one that fails. -/
def moveAll (grid : Grid) (moves : List Move) : Except GridError Grid :=
  moves.foldlM (fun grid move => grid.move move.source move.target) grid

theorem moveAll_cons_eq_ok_iff {move : Move} {rest : List Move} :
    grid.moveAll (move :: rest) = .ok last ↔
      ∃ next, grid.move move.source move.target = .ok next ∧ next.moveAll rest = .ok last := by
  rw [moveAll, List.foldlM_cons]
  cases grid.move move.source move.target with
  | ok next =>
      constructor
      · intro done
        exact ⟨next, rfl, done⟩
      · rintro ⟨_, ⟨⟩, done⟩
        exact done
  | error error =>
      constructor
      · rintro ⟨⟩
      · rintro ⟨_, ⟨⟩, -⟩

theorem moveAll_concat {move : Move} {moves : List Move} (done : grid.moveAll moves = .ok next)
    (moved : next.move move.source move.target = .ok last) :
    grid.moveAll (moves ++ [move]) = .ok last := by
  have parts : grid.moveAll (moves ++ [move]) =
      (grid.moveAll moves).bind fun next => next.moveAll [move] := List.foldlM_append
  rw [parts, done]
  exact moveAll_cons_eq_ok_iff.mpr ⟨last, moved, rfl⟩

/-- Nothing is different but the positions of widgets; the order in which they are held is the same. -/
structure OnlyMoved (grid next : Grid) : Prop where
  dashboard : next.dashboard = grid.dashboard
  geometry : next.geometry = grid.geometry
  dashlets : next.dashlets.map Dashlet.unplaced = grid.dashlets.map Dashlet.unplaced

theorem onlyMoved_exchange (grid : Grid) (source target : Position) :
    grid.OnlyMoved (grid.exchange source target) where
  dashboard := rfl
  geometry := rfl
  dashlets := by simp [exchange, Function.comp_def]

/-- A move that is made has been the exchange of two cells, and the move back exchanges them again. -/
theorem Distinct.move_back (distinct : grid.Distinct)
    (moved : grid.move source target = .ok next) :
    next.Distinct ∧ grid.OnlyMoved next ∧ next.move target source = .ok grid := by
  rw [distinct.move_eq] at moved
  split at moved
  next occupied =>
    obtain rfl := Except.ok.inj moved
    refine ⟨distinct.exchange, onlyMoved_exchange grid source target, ?_⟩
    have back : (grid.exchange source target).exchange target source = grid := by
      rw [exchange_comm _ target source, exchange_exchange]
    rw [distinct.exchange.move_eq, isOccupied_exchange_target, if_pos occupied, back]
  next => cases moved

/-- The induction is on the moves.  The grid that the first one leaves is restored by undoing the others, and
then the first one is taken back. -/
theorem Distinct.moveAll_back {moves : List Move} (distinct : grid.Distinct)
    (moved : grid.moveAll moves = .ok last) :
    grid.OnlyMoved last ∧ last.moveAll (moves.map Move.back).reverse = .ok grid := by
  induction moves generalizing grid with
  | nil =>
      obtain rfl := Except.ok.inj moved
      exact ⟨⟨rfl, rfl, rfl⟩, rfl⟩
  | cons move rest ih =>
      obtain ⟨next, first, others⟩ := moveAll_cons_eq_ok_iff.mp moved
      obtain ⟨distinctNext, only, back⟩ := distinct.move_back first
      obtain ⟨onlyRest, restored⟩ := ih distinctNext others
      refine ⟨⟨onlyRest.dashboard.trans only.dashboard, onlyRest.geometry.trans only.geometry,
        onlyRest.dashlets.trans only.dashlets⟩, ?_⟩
      rw [List.map_cons, List.reverse_cons]
      exact moveAll_concat restored back

/-- On a grid with distinct positions, every widget can be moved to every position, and the move back
restores the grid exactly.  Between two widgets both directions do the same.  Whatever moves are made one
after the other, nothing but positions is changed, and the moves back in reverse order restore the grid. -/
theorem moves_are_undone (distinct : grid.Distinct) :
    (∀ source target, grid.isOccupied source = true →
      ∃ moved, grid.move source target = .ok moved ∧ moved.move target source = .ok grid) ∧
    (∀ source target, grid.isOccupied source = true → grid.isOccupied target = true →
      grid.move source target = grid.move target source) ∧
    ∀ moves last, grid.moveAll moves = .ok last →
      grid.OnlyMoved last ∧ last.moveAll (moves.map Move.back).reverse = .ok grid := by
  refine ⟨fun source target occupied => ?_, fun source target here there => ?_, fun moves last moved => ?_⟩
  · have moved : grid.move source target = .ok (grid.exchange source target) := by
      rw [distinct.move_eq, if_pos occupied]
    exact ⟨_, moved, (distinct.move_back moved).2.2⟩
  · rw [distinct.move_eq, distinct.move_eq, if_pos here, if_pos there, exchange_comm]
  · exact distinct.moveAll_back moved

/-- Two widgets change places, one of them goes to an empty cell, and another one stays where it is. -/
theorem moves_are_undone_three :
    let cpu := Dashlet.measurement "t1" "Host Health" "cpu"
    let mem := Dashlet.measurement "t1" "Host Health" "mem"
    let grid : Grid :=
      { dashboard := "t1", geometry := {}, dashlets := [cpu.moved ⟨1, 1⟩, mem.moved ⟨2, 1⟩] }
    let after : Grid := { grid with dashlets := [cpu.moved ⟨5, 9⟩, mem.moved ⟨1, 1⟩] }
    let moves : List Move := [⟨⟨1, 1⟩, ⟨2, 1⟩⟩, ⟨⟨2, 1⟩, ⟨5, 9⟩⟩, ⟨⟨1, 1⟩, ⟨1, 1⟩⟩]
    grid.Distinct ∧ grid.moveAll moves = .ok after ∧
      after.moveAll [⟨⟨1, 1⟩, ⟨1, 1⟩⟩, ⟨⟨5, 9⟩, ⟨2, 1⟩⟩, ⟨⟨2, 1⟩, ⟨1, 1⟩⟩] = .ok grid ∧
      grid.move ⟨1, 1⟩ ⟨2, 1⟩ = grid.move ⟨2, 1⟩ ⟨1, 1⟩ ∧
      ∃ moved, grid.move ⟨2, 1⟩ ⟨7, 7⟩ = .ok moved ∧ moved.move ⟨7, 7⟩ ⟨2, 1⟩ = .ok grid := by
  intro cpu mem grid after moves
  have distinct : grid.Distinct := by
    show (grid.dashlets.map Dashlet.position).Nodup
    decide
  have moved : grid.moveAll moves = .ok after := by rfl
  obtain ⟨one, both, sequence⟩ := moves_are_undone distinct
  refine ⟨distinct, moved, (sequence moves after moved).2, ?_, ?_⟩
  · exact both ⟨1, 1⟩ ⟨2, 1⟩ (by rfl) (by rfl)
  · exact one ⟨2, 1⟩ ⟨7, 7⟩ (by rfl)

end Grid

end DashletBoard
