/-
Module: DashletBoard.Proofs.GridPlacement
Purpose: What each change of a grid does to the widgets found at positions, and that no change puts two
  widgets at one position.
Main exports: Dashlet.unplaced, Grid.Distinct, Grid.placed, Grid.Distinct.records_placed, Grid.without,
  Grid.exchange, Grid.showing, Grid.Distinct.move_eq, Grid.Distinct.setShown_eq
-/
import Mathlib.Data.List.Nodup
import DashletBoard.Proofs.FreeCell

namespace DashletBoard

@[simp] theorem Dashlet.position_moved (d : Dashlet) (p : Position) : (d.moved p).position = p := rfl

/-- A widget apart from its position. -/
def Dashlet.unplaced (d : Dashlet) : Dashlet := d.moved ⟨0, 0⟩

@[simp] theorem Dashlet.unplaced_moved (d : Dashlet) (p : Position) :
    (d.moved p).unplaced = d.unplaced := rfl

namespace Grid

variable {grid changed : Grid} {d removed : Dashlet} {p q source target : Position} {shown : Bool}

/-- No two widgets are at one position. -/
def Distinct (grid : Grid) : Prop := (grid.dashlets.map Dashlet.position).Nodup

/-!
### Looking
-/

theorem position_of_get?_eq_some (found : grid.get? p = some d) : d.position = p :=
  eq_of_beq (List.find?_some (p := fun d : Dashlet => d.position == p) found)

theorem mem_of_get?_eq_some (found : grid.get? p = some d) : d ∈ grid.dashlets :=
  List.mem_of_find?_eq_some found

theorem get?_eq_none_iff : grid.get? p = none ↔ grid.isOccupied p = false := by
  rw [isOccupied, Option.isSome_eq_false_iff, Option.isNone_iff_eq_none]

/-- Where positions are distinct, every widget is found at its position. -/
theorem Distinct.get?_eq_some_iff (distinct : grid.Distinct) :
    grid.get? p = some d ↔ d ∈ grid.dashlets ∧ d.position = p := by
  constructor
  · intro found
    exact ⟨mem_of_get?_eq_some found, position_of_get?_eq_some found⟩
  · intro listed
    rcases listed with ⟨member, rfl⟩
    cases found : grid.get? d.position with
    | none =>
        have seen := List.find?_eq_none.mp found d member
        simp at seen
    | some other =>
        have same := position_of_get?_eq_some found
        rw [List.inj_on_of_nodup_map distinct (mem_of_get?_eq_some found) member same]

/-!
### Records
-/

theorem records_eq : grid.records =
    (canonicalOrder grid.dashlets).map fun d => d.stamped grid.dashboard :=
  canonicalOrder_map (fun d => d.stamped grid.dashboard) (fun _ => rfl) grid.dashlets

theorem Distinct.records_ascending (distinct : grid.Distinct) : StrictlyAscending grid.records := by
  rw [records_eq, StrictlyAscending, List.map_map]
  exact canonicalOrder_strictly_ascending distinct

/-!
### Placing
-/

/-- The grid with one more widget. -/
def placed (grid : Grid) (d : Dashlet) : Grid := { grid with dashlets := grid.dashlets ++ [d] }

theorem insert_eq : grid.insert d =
    if grid.isOccupied d.position then .error (.occupied d.position) else .ok (grid.placed d) := rfl

theorem add?_eq : grid.add? d = grid.nextFree?.map fun p => (p, grid.placed (d.moved p)) := rfl

theorem insert_eq_ok_iff :
    grid.insert d = .ok changed ↔ grid.isOccupied d.position = false ∧ changed = grid.placed d := by
  rw [insert_eq]
  split
  next taken => simp [taken]
  next free => simp [free, eq_comm]

theorem add?_eq_some_iff :
    grid.add? d = some (p, changed) ↔
      grid.nextFree? = some p ∧ changed = grid.placed (d.moved p) := by
  simp only [add?_eq, Option.map_eq_some_iff, Prod.mk.injEq]
  constructor
  · rintro ⟨_, free, rfl, rfl⟩
    exact ⟨free, rfl⟩
  · intro search
    rcases search with ⟨free, rfl⟩
    exact ⟨p, free, rfl, rfl⟩

theorem isOccupied_of_nextFree? (search : grid.nextFree? = some p) : grid.isOccupied p = false :=
  (nextFree?_eq_some_iff.mp search).1.2

theorem get?_placed :
    (grid.placed d).get? p = (grid.get? p).or (if d.position = p then some d else none) := by
  simp only [get?, placed, List.find?_append, List.find?_cons, List.find?_nil]
  split <;> simp_all

theorem Distinct.placed (distinct : grid.Distinct) (free : grid.isOccupied d.position = false) :
    (grid.placed d).Distinct := by
  have fresh : d.position ∉ grid.dashlets.map Dashlet.position := by
    rw [← isOccupied_iff, free]
    exact Bool.false_ne_true
  rw [Distinct, Grid.placed, List.map_append, List.map_singleton]
  apply List.nodup_append.mpr
  refine ⟨distinct, List.nodup_singleton _, ?_⟩
  intro first member second single same
  rw [List.mem_singleton.mp single] at same
  exact fresh (same ▸ member)

/-- One more widget parts the records of a grid into those before it and those after it. -/
theorem Distinct.records_placed (distinct : grid.Distinct)
    (free : grid.isOccupied d.position = false) :
    ∃ front back, grid.records = front ++ back ∧
      (grid.placed d).records = front ++ d.stamped grid.dashboard :: back := by
  have listed : (grid.placed d).records.Perm (d.stamped grid.dashboard :: grid.records) := by
    have stamped : (grid.placed d).dashlets.map (·.stamped grid.dashboard) =
        grid.dashlets.map (·.stamped grid.dashboard) ++ [d.stamped grid.dashboard] :=
      List.map_append
    refine (canonicalOrder_perm _).trans (stamped ▸ (List.perm_append_singleton _ _).trans ?_)
    exact (canonicalOrder_perm _).symm.cons _
  obtain ⟨front, back, parts⟩ := List.append_of_mem (listed.mem_iff.mpr (List.mem_cons_self ..))
  refine ⟨front, back, ?_, parts⟩
  have ascending := (distinct.placed free).records_ascending
  rw [parts] at ascending listed
  apply distinct.records_ascending.eq_of_perm
  · exact ascending.sublist ((List.sublist_cons_self _ back).append_left front)
  · exact (List.perm_cons _).mp (listed.symm.trans List.perm_middle)

/-!
### Removing
-/

/-- The grid without the first widget at a position. -/
def without (grid : Grid) (p : Position) : Grid :=
  { grid with dashlets := grid.dashlets.eraseP fun d => d.position == p }

theorem remove_eq_ok_iff :
    grid.remove p = .ok (removed, changed) ↔
      grid.get? p = some removed ∧ changed = grid.without p := by
  rw [remove]
  cases found : grid.get? p with
  | none => simp
  | some d => simp [without, eq_comm]

/-- Taking out a widget leaves the widgets at other positions. -/
theorem get?_without_of_ne (other : q ≠ p) : (grid.without p).get? q = grid.get? q := by
  rcases grid with ⟨dashboard, geometry, dashlets⟩
  simp only [get?, without]
  induction dashlets with
  | nil => rfl
  | cons head rest ih =>
      by_cases taken : head.position = p
      · simp [taken, other.symm]
      · simp [taken, List.find?_cons, ih]

/-- Where positions are distinct, nothing is left at the position of a widget that was taken out. -/
theorem Distinct.get?_without_self (distinct : grid.Distinct) :
    (grid.without p).get? p = none := by
  rcases grid with ⟨dashboard, geometry, dashlets⟩
  simp only [get?, without, Distinct] at *
  induction dashlets with
  | nil => rfl
  | cons head rest ih =>
      obtain ⟨fresh, distinct⟩ := List.nodup_cons.mp distinct
      by_cases taken : head.position = p
      · simp only [taken, beq_self_eq_true, List.eraseP_cons_of_pos, List.find?_eq_none, beq_iff_eq]
        intro d member same
        exact fresh (taken ▸ same ▸ List.mem_map_of_mem member)
      · simp [taken, ih distinct]

theorem Distinct.without (distinct : grid.Distinct) : (grid.without p).Distinct :=
  List.Nodup.sublist (List.eraseP_sublist.map _) distinct

/-!
### Finding by index

Where positions are distinct, a position has one index, and what is changed there is changed nowhere
else.
-/

theorem isSome_index? : (grid.index? p).isSome = grid.isOccupied p := by
  rw [index?, List.findIdx?_isSome, isOccupied, get?, Bool.eq_iff_iff, List.find?_isSome,
    List.any_eq_true]

theorem index?_eq_none_iff : grid.index? p = none ↔ grid.isOccupied p = false := by
  rw [← isSome_index?, Option.isSome_eq_false_iff, Option.isNone_iff_eq_none]

theorem isOccupied_of_index? {index : Nat} (known : grid.index? p = some index) :
    grid.isOccupied p = true := by
  rw [← isSome_index?, known, Option.isSome_some]

theorem Distinct.index?_eq_some_iff {index : Nat} (distinct : grid.Distinct) :
    grid.index? p = some index ↔ ∃ d, grid.dashlets[index]? = some d ∧ d.position = p := by
  rw [index?, List.findIdx?_eq_some_iff_getElem]
  constructor
  · intro first
    rcases first with ⟨bound, here, -⟩
    exact ⟨grid.dashlets[index], List.getElem?_eq_getElem bound, eq_of_beq here⟩
  · intro listed
    rcases listed with ⟨d, found, rfl⟩
    obtain ⟨bound, rfl⟩ := List.getElem?_eq_some_iff.mp found
    refine ⟨bound, beq_self_eq_true _, ?_⟩
    intro before less same
    have bounded : before < (grid.dashlets.map Dashlet.position).length := by
      rw [List.length_map]
      exact less.trans bound
    have positions : (grid.dashlets.map Dashlet.position)[before]? =
        (grid.dashlets.map Dashlet.position)[index]? := by
      rw [List.getElem?_map, List.getElem?_map, List.getElem?_eq_getElem bound,
        List.getElem?_eq_getElem (less.trans bound)]
      exact congrArg some (eq_of_beq same)
    exact less.ne ((List.getElem?_inj bounded distinct).mp positions)

/-- What is done at the index of a position is done to the widget at that position, also after all
widgets were changed in some way. -/
theorem Distinct.modify_map {index : Nat} (distinct : grid.Distinct)
    (known : grid.index? p = some index) (before change : Dashlet → Dashlet) :
    (grid.dashlets.map before).modify index change =
      grid.dashlets.map fun d => if d.position = p then change (before d) else before d := by
  apply List.ext_getElem?
  intro number
  rw [List.getElem?_modify, List.getElem?_map, List.getElem?_map]
  cases found : grid.dashlets[number]? with
  | none => rfl
  | some d =>
      have here : index = number ↔ d.position = p := by
        constructor
        · rintro rfl
          obtain ⟨same, listed, position⟩ := distinct.index?_eq_some_iff.mp known
          rw [found] at listed
          rw [Option.some.inj listed, position]
        · intro position
          have again := distinct.index?_eq_some_iff.mpr ⟨d, found, position⟩
          exact Option.some.inj (known.symm.trans again)
      simp [here]

theorem Distinct.modify_eq_map {index : Nat} (distinct : grid.Distinct)
    (known : grid.index? p = some index) (change : Dashlet → Dashlet) :
    grid.dashlets.modify index change =
      grid.dashlets.map fun d => if d.position = p then change d else d := by
  have changed := distinct.modify_map known id change
  rwa [List.map_id] at changed

/-!
### Moving

A move changes two widgets one after the other.  Where positions are distinct this exchanges two
positions, whether there is a widget at the target or not.  Exchanging twice changes nothing, so that no
two widgets can get to one position.
-/

/-- What stood at either cell is at the other one. -/
def exchanged (source target position : Position) : Position :=
  if position = source then target else if position = target then source else position

theorem exchanged_exchanged (source target p : Position) :
    exchanged source target (exchanged source target p) = p := by
  simp only [exchanged]
  split_ifs <;> simp_all

theorem exchanged_injective (source target : Position) :
    Function.Injective (exchanged source target) :=
  Function.LeftInverse.injective (exchanged_exchanged source target)

theorem exchanged_self (source p : Position) : exchanged source source p = p := by
  simp only [exchanged]
  split_ifs <;> simp_all

/-- The grid with the widgets of two cells exchanged. -/
def exchange (grid : Grid) (source target : Position) : Grid :=
  { grid with dashlets := grid.dashlets.map fun d => d.moved (exchanged source target d.position) }

theorem exchange_self : grid.exchange source source = grid := by
  have stays (d : Dashlet) : d.moved (exchanged source source d.position) = d := by
    rw [exchanged_self]
    rfl
  simp [exchange, stays]

/-- Before the widget itself is moved, one at the target is at the vacated cell. -/
theorem Distinct.vacated_eq_map (distinct : grid.Distinct) :
    grid.vacated source target =
      grid.dashlets.map fun d => if d.position = target then d.moved source else d := by
  rw [vacated]
  cases known : grid.index? target with
  | some other => exact distinct.modify_eq_map known _
  | none =>
      have absent := index?_eq_none_iff.mp known
      rw [Bool.eq_false_iff, Ne, isOccupied_iff] at absent
      have stays : ∀ d ∈ grid.dashlets,
          (if d.position = target then d.moved source else d) = d := by
        intro d member
        apply if_neg
        rintro rfl
        exact absent (List.mem_map_of_mem member)
      exact ((List.map_congr_left stays).trans (List.map_id _)).symm

theorem Distinct.move_eq (distinct : grid.Distinct) : grid.move source target =
    if grid.isOccupied source then .ok (grid.exchange source target)
    else .error (.notFound source) := by
  rw [move]
  cases known : grid.index? source with
  | none => simp [index?_eq_none_iff.mp known]
  | some index =>
      have occupied := isOccupied_of_index? known
      by_cases still : source = target
      · subst still
        simp [occupied, exchange_self]
      · have moves (d : Dashlet) :
            (if d.position = source then
                (if d.position = target then d.moved source else d).moved target
              else if d.position = target then d.moved source else d) =
              d.moved (exchanged source target d.position) := by
          simp only [exchanged]
          split_ifs with atSource atTarget atTarget
          · exact absurd (atSource.symm.trans atTarget) still
          · rfl
          · rfl
          · rfl
        have dashlets : (grid.vacated source target).modify index (·.moved target) =
            (grid.exchange source target).dashlets := by
          rw [distinct.vacated_eq_map, distinct.modify_map known]
          exact List.map_congr_left fun d _ => moves d
        simp [occupied, still, dashlets, exchange]

/-- After a move, what is at a position is what was at the position exchanged with it. -/
theorem get?_exchange :
    (grid.exchange source target).get? q =
      (grid.get? (exchanged source target q)).map fun d => d.moved q := by
  have test (d : Dashlet) : (exchanged source target d.position == q) =
      (d.position == exchanged source target q) := by
    rw [Bool.eq_iff_iff, beq_iff_eq, beq_iff_eq]
    constructor
    · rintro rfl
      rw [exchanged_exchanged]
    · intro same
      rw [same, exchanged_exchanged]
  simp only [get?, exchange, List.find?_map, Function.comp_def, Dashlet.moved, test]
  cases found : grid.dashlets.find? fun d => d.position == exchanged source target q with
  | none => rfl
  | some d =>
      have position : d.position = exchanged source target q := position_of_get?_eq_some found
      simp [position, exchanged_exchanged]

theorem Distinct.exchange (distinct : grid.Distinct) : (grid.exchange source target).Distinct := by
  have positions : (grid.exchange source target).dashlets.map Dashlet.position =
      (grid.dashlets.map Dashlet.position).map (exchanged source target) := by
    simp [Grid.exchange, Dashlet.moved, Function.comp_def]
  rw [Distinct, positions]
  exact distinct.map (exchanged_injective source target)

/-!
### Showing and hiding
-/

/-- The grid with the widget at a position shown or hidden. -/
def showing (grid : Grid) (p : Position) (shown : Bool) : Grid :=
  { grid with
    dashlets := grid.dashlets.map fun d => if d.position = p then { d with shown := shown } else d }

theorem Distinct.setShown_eq (distinct : grid.Distinct) : grid.setShown p shown =
    if grid.isOccupied p then .ok (grid.showing p shown) else .error (.notFound p) := by
  rw [setShown]
  cases known : grid.index? p with
  | none => simp [index?_eq_none_iff.mp known]
  | some index =>
      simp [isOccupied_of_index? known, distinct.modify_eq_map known, showing]

theorem position_showing (d : Dashlet) :
    (if d.position = p then { d with shown := shown } else d).position = d.position := by
  split <;> rfl

theorem get?_showing :
    (grid.showing p shown).get? q =
      (grid.get? q).map fun d => if q = p then { d with shown := shown } else d := by
  simp only [get?, showing, List.find?_map, Function.comp_def, position_showing]
  cases found : grid.dashlets.find? fun d => d.position == q with
  | none => rfl
  | some d =>
      have position : d.position = q := position_of_get?_eq_some found
      simp [position]

theorem Distinct.showing (distinct : grid.Distinct) : (grid.showing p shown).Distinct := by
  rw [Distinct, Grid.showing, List.map_map]
  simp only [Function.comp_def, position_showing]
  exact distinct

end Grid

end DashletBoard
