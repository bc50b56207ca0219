/-
Module: DashletBoard.Proofs.StableOrder
Purpose: Comparing positions is a total order, and canonical order is the only arrangement of widgets that
  ascends in it and keeps the order of widgets at one position.
Main exports: Position.compare_eq_lt_iff, widgetsAt, ArrangesStably, widgetsAt_canonicalOrder,
  eq_of_widgetsAt, ArrangesStably.eq, canonical_order_is_the_stable_one
-/
import DashletBoard.Proofs.PositionOrder

namespace DashletBoard

/-!
### Comparing positions
-/

namespace Position

variable {p q : Position}

/-- Rows are compared first, and columns decide between positions of one row. -/
theorem compare_eq_lt_iff : compare p q = .lt ↔ p.row < q.row ∨ p.row = q.row ∧ p.col < q.col := by
  show (compare p.row q.row).then (compare p.col q.col) = .lt ↔ _
  rw [Ordering.then_eq_lt, Std.compare_eq_lt, Std.compare_eq_lt, Std.compare_eq_iff_eq]

theorem isLE_compare_iff : (compare p q).isLE = true ↔ p ≤ q :=
  Ordering.isLE_iff_ne_gt.trans compare_le_iff_le

end Position

/-!
### Stable arrangements

An arrangement is seen position by position: which widgets are at a position, and in which order.  With
ascending positions nothing else is left open.
-/

/-- The widgets of a list that are at a position, in their order. -/
def widgetsAt (p : Position) (dashlets : List Dashlet) : List Dashlet :=
  dashlets.filter fun d => d.position == p

/-- A list holds the widgets of another one in ascending order of their positions, and those at one
position in the order of the other list. -/
structure ArrangesStably (dashlets arranged : List Dashlet) : Prop where
  perm : arranged.Perm dashlets
  ascending : arranged.Pairwise fun first second =>
    (compare first.position second.position).isLE = true
  stable : ∀ p, widgetsAt p arranged = widgetsAt p dashlets

variable {d : Dashlet} {p : Position} {dashlets arranged : List Dashlet}

theorem mem_widgetsAt : d ∈ widgetsAt p dashlets ↔ d ∈ dashlets ∧ d.position = p := by
  rw [widgetsAt, List.mem_filter, beq_iff_eq]

theorem widgetsAt_cons_self (d : Dashlet) (rest : List Dashlet) :
    widgetsAt d.position (d :: rest) = d :: widgetsAt d.position rest :=
  List.filter_cons_of_pos (beq_self_eq_true _)

theorem widgetsAt_cons_of_ne (other : d.position ≠ p) (rest : List Dashlet) :
    widgetsAt p (d :: rest) = widgetsAt p rest :=
  List.filter_cons_of_neg (by simpa using other)

/-- The widgets at one position are in ascending order as they stand, so ordering keeps their list. -/
theorem widgetsAt_canonicalOrder (p : Position) (dashlets : List Dashlet) :
    widgetsAt p (canonicalOrder dashlets) = widgetsAt p dashlets := by
  have level : (widgetsAt p dashlets).Pairwise NotAfter := by
    apply List.pairwise_of_forall_mem_list
    intro first among second amongAlso
    rw [NotAfter, (mem_widgetsAt.mp among).2, (mem_widgetsAt.mp amongAlso).2]
  have kept : (widgetsAt p dashlets).Sublist (canonicalOrder dashlets) := by
    rw [canonicalOrder_eq_insertionSort]
    exact List.sublist_insertionSort level List.filter_sublist
  have within : (widgetsAt p dashlets).Sublist (widgetsAt p (canonicalOrder dashlets)) := by
    have filtered := kept.filter fun d => d.position == p
    simpa only [widgetsAt, List.filter_filter, Bool.and_self] using filtered
  have counts := ((canonicalOrder_perm dashlets).filter fun d => d.position == p).length_eq
  exact (within.eq_of_length counts.symm).symm

theorem arrangesStably_canonicalOrder (dashlets : List Dashlet) :
    ArrangesStably dashlets (canonicalOrder dashlets) where
  perm := canonicalOrder_perm dashlets
  ascending := (canonicalOrder_ascending dashlets).imp Position.isLE_compare_iff.mpr
  stable p := widgetsAt_canonicalOrder p dashlets

/-- The first widget of an ascending list is not after any widget of it. -/
theorem head_le_of_ascending {rest : List Dashlet} (ascending : (d :: rest).Pairwise NotAfter)
    {other : Dashlet} (member : other ∈ d :: rest) : d.position ≤ other.position := by
  rcases List.mem_cons.mp member with rfl | later
  · exact le_rfl
  · exact List.rel_of_pairwise_cons ascending later

section SameWidgets

variable {first second : List Dashlet}

theorem mem_iff_of_widgetsAt (same : ∀ p, widgetsAt p first = widgetsAt p second) (d : Dashlet) :
    d ∈ first ↔ d ∈ second := by
  have here := congrArg (d ∈ ·) (same d.position)
  simpa [mem_widgetsAt] using here

/-- Ascending lists are told by the widgets that they have at each position.  The induction takes the first
widgets off both lists: neither of them is after the other one, so they are at one position, and there
they are the first. -/
theorem eq_of_widgetsAt (ascending : first.Pairwise NotAfter) (other : second.Pairwise NotAfter)
    (same : ∀ p, widgetsAt p first = widgetsAt p second) : first = second := by
  induction first generalizing second with
  | nil =>
      symm
      rw [List.eq_nil_iff_forall_not_mem]
      intro d member
      exact List.not_mem_nil ((mem_iff_of_widgetsAt same d).mpr member)
  | cons d rest ih =>
      have listed : d ∈ second := (mem_iff_of_widgetsAt same d).mp List.mem_cons_self
      cases second with
      | nil => exact absurd listed List.not_mem_nil
      | cons e others =>
          have front : e ∈ d :: rest := (mem_iff_of_widgetsAt same e).mpr List.mem_cons_self
          have position : d.position = e.position :=
            le_antisymm (head_le_of_ascending ascending front) (head_le_of_ascending other listed)
          have here := same d.position
          rw [widgetsAt_cons_self, position, widgetsAt_cons_self] at here
          obtain ⟨rfl, remaining⟩ := List.cons.inj here
          congr 1
          refine ih ascending.tail other.tail fun p => ?_
          by_cases there : d.position = p
          · rw [← there]
            exact remaining
          · have elsewhere := same p
            rwa [widgetsAt_cons_of_ne there, widgetsAt_cons_of_ne there] at elsewhere

end SameWidgets

/-- There is one stable arrangement. -/
theorem ArrangesStably.eq (arranges : ArrangesStably dashlets arranged) :
    arranged = canonicalOrder dashlets := by
  apply eq_of_widgetsAt (arranges.ascending.imp Position.isLE_compare_iff.mp)
    (canonicalOrder_ascending dashlets)
  intro p
  rw [arranges.stable, widgetsAt_canonicalOrder]

theorem canonicalOrder_eq_of_perm {shuffled : List Dashlet}
    (distinct : (dashlets.map Dashlet.position).Nodup) (same : shuffled.Perm dashlets) :
    canonicalOrder shuffled = canonicalOrder dashlets := by
  have shuffledDistinct : (shuffled.map Dashlet.position).Nodup :=
    (same.map Dashlet.position).nodup_iff.mpr distinct
  apply (canonicalOrder_strictly_ascending shuffledDistinct).eq_of_perm
    (canonicalOrder_strictly_ascending distinct)
  exact (canonicalOrder_perm shuffled).trans (same.trans (canonicalOrder_perm dashlets).symm)

/-- Comparing positions is a total order: rows come first and then columns, and only a position and itself
are equal.  The canonical order of widgets is their one stable arrangement in this order: a permutation,
ascending, with the widgets at one position in the order in which they were given.  Ordering again changes
nothing, and where positions are distinct the order in which widgets are given does not matter. -/
theorem canonical_order_is_the_stable_one :
    (∀ p q : Position,
      (compare p q = .lt ↔ p.row < q.row ∨ p.row = q.row ∧ p.col < q.col) ∧
        (compare p q = .eq ↔ p = q) ∧ compare q p = (compare p q).swap ∧
        (p < q ↔ compare p q = .lt) ∧ (p ≤ q ↔ (compare p q).isLE = true)) ∧
    (∀ p q r : Position, (compare p q).isLE = true → (compare q r).isLE = true →
      (compare p r).isLE = true) ∧
    ∀ dashlets : List Dashlet,
      (∀ arranged, arranged = canonicalOrder dashlets ↔ ArrangesStably dashlets arranged) ∧
        canonicalOrder (canonicalOrder dashlets) = canonicalOrder dashlets ∧
        ((dashlets.map Dashlet.position).Nodup → ∀ shuffled, shuffled.Perm dashlets →
          canonicalOrder shuffled = canonicalOrder dashlets) := by
  refine ⟨fun p q => ⟨Position.compare_eq_lt_iff, compare_eq_iff_eq, Std.OrientedOrd.eq_swap,
    compare_lt_iff_lt.symm, Position.isLE_compare_iff.symm⟩, fun p q r => Std.TransOrd.isLE_trans,
    fun dashlets => ⟨fun arranged => ⟨?_, ArrangesStably.eq⟩, ?_, ?_⟩⟩
  · rintro rfl
    exact arrangesStably_canonicalOrder dashlets
  · exact canonicalOrder_eq_self (canonicalOrder_ascending dashlets)
  · intro distinct shuffled same
    exact canonicalOrder_eq_of_perm distinct same

/-- Two widgets share a cell, and two others come in either order. -/
theorem canonical_order_is_the_stable_one_ties :
    let cpu := (Dashlet.measurement "t1" "Host Health" "cpu").moved ⟨2, 1⟩
    let mem := (Dashlet.measurement "t1" "Host Health" "mem").moved ⟨2, 1⟩
    let gc := (Dashlet.measurement "t1" "Host Health" "gc").moved ⟨3, 0⟩
    ArrangesStably [cpu, mem, gc] [gc, cpu, mem] ∧ ¬ ArrangesStably [cpu, mem, gc] [gc, mem, cpu] ∧
      canonicalOrder [cpu, gc] = canonicalOrder [gc, cpu] ∧
      (compare gc.position mem.position).isLE = true := by
  intro cpu mem gc
  obtain ⟨-, transitive, orders⟩ := canonical_order_is_the_stable_one
  have arranged : canonicalOrder [cpu, mem, gc] = [gc, cpu, mem] := by decide
  refine ⟨((orders _).1 _).mp arranged.symm, ?_, ?_, ?_⟩
  · rw [← (orders _).1, arranged]
    decide
  · exact (orders [gc, cpu]).2.2 (by decide) [cpu, gc] (List.Perm.swap gc cpu [])
  · exact transitive gc.position cpu.position mem.position (by decide) (by decide)

end DashletBoard
