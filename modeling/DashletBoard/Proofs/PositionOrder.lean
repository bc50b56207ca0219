/-
Module: DashletBoard.Proofs.PositionOrder
Purpose: Row-major order is a linear order without infinite descent, and ordering widgets by position
  gives the only ascending arrangement of them.
Main exports: Position.rank, Position.le_iff_rank_le, canonicalOrder_perm, canonicalOrder_ascending,
  canonicalOrder_eq_self, canonicalOrder_map, StrictlyAscending, StrictlyAscending.eq_of_perm
-/
import Mathlib.Data.List.Sort
import Mathlib.Order.WellFounded
import DashletBoard.Dashlet

namespace DashletBoard

namespace Position

/-!
### Row-major order as an order of numbers

Counting the cells of all rows one after the other gives every position a number of its own.  The
order of positions is the order of these numbers, so that its laws are those of natural numbers.
-/

/-- The count of cells before a position in row-major order. -/
def rank (p : Position) : Nat := p.row.toNat * UInt32.size + p.col.toNat

theorem rank_injective : Function.Injective rank := by
  intro p q equal
  have pCol := p.col.toNat_lt_size
  have qCol := q.col.toNat_lt_size
  simp only [rank, UInt32.size] at equal pCol qCol
  have rows : p.row.toNat = q.row.toNat := by omega
  have cols : p.col.toNat = q.col.toNat := by omega
  cases p
  cases q
  simp only [mk.injEq]
  exact ⟨UInt32.toNat_inj.mp cols, UInt32.toNat_inj.mp rows⟩

theorem le_iff_rank_le (p q : Position) : p ≤ q ↔ p.rank ≤ q.rank := by
  have pCol := p.col.toNat_lt_size
  have qCol := q.col.toNat_lt_size
  show p.le q = true ↔ _
  simp only [le, rank, UInt32.size, Bool.or_eq_true, Bool.and_eq_true, decide_eq_true_eq,
    beq_iff_eq, UInt32.lt_iff_toNat_lt, UInt32.le_iff_toNat_le, ← UInt32.toNat_inj] at *
  omega

theorem lt_iff_rank_lt (p q : Position) : p < q ↔ p.rank < q.rank := by
  show p.le q = true ∧ p ≠ q ↔ _
  have least : p.le q = true ↔ p.rank ≤ q.rank := le_iff_rank_le p q
  rw [least, Nat.lt_iff_le_and_ne, rank_injective.ne_iff]

theorem le_of_row_eq {p q : Position} (rows : p.row = q.row) (cols : p.col ≤ q.col) : p ≤ q := by
  rw [le_iff_rank_le, rank, rank, rows]
  exact Nat.add_le_add_left (UInt32.le_iff_toNat_le.mp cols) _

theorem lt_of_row_lt {p q : Position} (rows : p.row < q.row) : p < q := by
  have bound := p.col.toNat_lt_size
  have lower : (p.row.toNat + 1) * UInt32.size ≤ q.row.toNat * UInt32.size :=
    Nat.mul_le_mul_right _ (UInt32.lt_iff_toNat_lt.mp rows)
  rw [lt_iff_rank_lt, rank, rank]
  rw [Nat.add_mul] at lower
  omega

/-- Comparing rows and then columns decides the order of positions. -/
theorem compare_eq_compareOfLessAndEq (p q : Position) :
    compare p q = compareOfLessAndEq p q := by
  have pCol := p.col.toNat_lt_size
  have qCol := q.col.toNat_lt_size
  show (compareOfLessAndEq p.row q.row).then (compareOfLessAndEq p.col q.col) = _
  simp only [compareOfLessAndEq, lt_iff_rank_lt, ← rank_injective.eq_iff, rank,
    UInt32.lt_iff_toNat_lt, ← UInt32.toNat_inj, UInt32.size] at *
  split_ifs <;> first | rfl | omega

instance : LinearOrder Position where
  le_refl p := (le_iff_rank_le p p).mpr (Nat.le_refl _)
  le_trans p q r := by
    simp only [le_iff_rank_le]
    exact Nat.le_trans
  le_antisymm p q := by
    simp only [le_iff_rank_le]
    intro below above
    exact rank_injective (Nat.le_antisymm below above)
  le_total p q := by
    simp only [le_iff_rank_le]
    exact Nat.le_total _ _
  lt_iff_le_not_ge p q := by
    rw [lt_iff_rank_lt, le_iff_rank_le, le_iff_rank_le]
    omega
  toDecidableLE := inferInstance
  toDecidableLT := inferInstance
  compare_eq_compareOfLessAndEq := compare_eq_compareOfLessAndEq

instance : WellFoundedLT Position :=
  ⟨(measure rank).wf.mono fun p q => (lt_iff_rank_lt p q).mp⟩

end Position

/-!
### Canonical order

Ordering by position is an insertion sort.  Where positions are distinct, its result is the only
ascending arrangement, so the order in which widgets were placed cannot be told from it.
-/

theorem sortByPosition_eq_insertionSort (position : α → Position) (elements : List α) :
    sortByPosition position elements =
      elements.insertionSort fun first second => position first ≤ position second := by
  have insertion (element : α) (sorted : List α) :
      insertByPosition position element sorted =
        sorted.orderedInsert (fun first second => position first ≤ position second) element := by
    induction sorted with
    | nil => rfl
    | cons other rest ih => rw [insertByPosition, ih, List.orderedInsert_cons]
  induction elements with
  | nil => rfl
  | cons element rest ih =>
      rw [List.insertionSort_cons, ← ih, ← insertion]
      rfl

section CanonicalOrder

/-- One widget does not come after another one. -/
abbrev NotAfter (first second : Dashlet) : Prop := first.position ≤ second.position

instance : Std.Total NotAfter := ⟨fun first second => le_total first.position second.position⟩

instance : IsTrans Dashlet NotAfter := ⟨fun _ _ _ => le_trans⟩

theorem canonicalOrder_eq_insertionSort (dashlets : List Dashlet) :
    canonicalOrder dashlets = dashlets.insertionSort NotAfter :=
  sortByPosition_eq_insertionSort Dashlet.position dashlets

theorem canonicalOrder_perm (dashlets : List Dashlet) :
    (canonicalOrder dashlets).Perm dashlets := by
  rw [canonicalOrder_eq_insertionSort]
  exact List.perm_insertionSort NotAfter dashlets

theorem canonicalOrder_ascending (dashlets : List Dashlet) :
    (canonicalOrder dashlets).Pairwise NotAfter := by
  rw [canonicalOrder_eq_insertionSort]
  exact List.pairwise_insertionSort NotAfter dashlets

@[simp] theorem mem_canonicalOrder {d : Dashlet} {dashlets : List Dashlet} :
    d ∈ canonicalOrder dashlets ↔ d ∈ dashlets :=
  (canonicalOrder_perm dashlets).mem_iff

/-- Widgets that are in ascending order stay as they are. -/
theorem canonicalOrder_eq_self {dashlets : List Dashlet} (ascending : dashlets.Pairwise NotAfter) :
    canonicalOrder dashlets = dashlets := by
  rw [canonicalOrder_eq_insertionSort]
  exact ascending.insertionSort_eq

/-- What leaves every widget at its position can be done before or after ordering. -/
theorem canonicalOrder_map (change : Dashlet → Dashlet)
    (stays : ∀ d, (change d).position = d.position) (dashlets : List Dashlet) :
    canonicalOrder (dashlets.map change) = (canonicalOrder dashlets).map change := by
  rw [canonicalOrder_eq_insertionSort, canonicalOrder_eq_insertionSort]
  symm
  apply List.map_insertionSort
  intro first _ second _
  rw [NotAfter, NotAfter, stays, stays]

/-- Widgets are in strictly ascending order of their positions. -/
def StrictlyAscending (dashlets : List Dashlet) : Prop :=
  (dashlets.map Dashlet.position).Pairwise (· < ·)

theorem StrictlyAscending.nodup {dashlets : List Dashlet} (ascending : StrictlyAscending dashlets) :
    (dashlets.map Dashlet.position).Nodup :=
  ascending.imp ne_of_lt

theorem StrictlyAscending.canonicalOrder_eq_self {dashlets : List Dashlet}
    (ascending : StrictlyAscending dashlets) : canonicalOrder dashlets = dashlets := by
  apply DashletBoard.canonicalOrder_eq_self
  exact (List.pairwise_map.mp ascending).imp le_of_lt

theorem StrictlyAscending.sublist {dashlets kept : List Dashlet}
    (ascending : StrictlyAscending dashlets) (sublist : kept.Sublist dashlets) :
    StrictlyAscending kept :=
  List.Pairwise.sublist (sublist.map Dashlet.position) ascending

/-- Widgets in strictly ascending order are told by which ones they are. -/
theorem StrictlyAscending.eq_of_perm {first second : List Dashlet}
    (ascending : StrictlyAscending first) (other : StrictlyAscending second)
    (same : first.Perm second) : first = second := by
  rw [StrictlyAscending, List.pairwise_map] at ascending other
  apply List.Perm.eq_of_pairwise _ ascending other same
  intro d e _ _ before after
  exact absurd before (lt_asymm after)

/-- Widgets at distinct positions get into strictly ascending order. -/
theorem canonicalOrder_strictly_ascending {dashlets : List Dashlet}
    (distinct : (dashlets.map Dashlet.position).Nodup) :
    StrictlyAscending (canonicalOrder dashlets) := by
  have sorted : ((canonicalOrder dashlets).map Dashlet.position).SortedLE := by
    rw [List.sortedLE_iff_pairwise, List.pairwise_map]
    exact canonicalOrder_ascending dashlets
  have nodup : ((canonicalOrder dashlets).map Dashlet.position).Nodup :=
    ((canonicalOrder_perm dashlets).map Dashlet.position).nodup_iff.mpr distinct
  exact (sorted.sortedLT_of_nodup nodup).pairwise

end CanonicalOrder

end DashletBoard
