/-
Module: DashletBoard.Proofs.GridRequests
Purpose: Everything that can be asked of a grid as one request, and what every request keeps: positions
  stay distinct, and no widget is lost or doubled.
Main exports: Grid.Request, Grid.Response, Grid.answer?, Grid.Distinct.answer?, Grid.Distinct.answerAll?,
  Dashlet.content, Grid.answer?_ledger, Grid.answerAll?_ledger
-/
import DashletBoard.Proofs.GridPlacement
import DashletBoard.Proofs.Sequences

namespace DashletBoard

namespace Grid

/-!
### Requests

Everything that can be asked of a grid is one request, so that a use of a grid is a list of requests.
Only the search for a free cell, by itself or for a new widget, may have no end.
-/

/-- What can be asked of a grid. -/
inductive Request where
  | insert (d : Dashlet)
  | add (d : Dashlet)
  | nextFree
  | remove (position : Position)
  | move (source target : Position)
  | setShown (position : Position) (shown : Bool)
  | get (position : Position)
  | isOccupied (position : Position)
  | size
  | isEmpty
  | records
deriving Repr, DecidableEq

/-- What a grid answers. -/
inductive Response where
  | done
  | failed (error : GridError)
  | position (position : Position)
  | removed (d : Dashlet)
  | found (d : Option Dashlet)
  | flag (value : Bool)
  | count (value : Nat)
  | records (dashlets : List Dashlet)
deriving Repr, DecidableEq

/-- The answer to a change that gives nothing back; a failed change leaves the grid as it is. -/
def changeAnswer (grid : Grid) : Except GridError Grid → Response × Grid
  | .ok changed => (.done, changed)
  | .error error => (.failed error, grid)

/-- The answer of a grid, and the grid after it. -/
def answer? (grid : Grid) : Request → Option (Response × Grid)
  | .insert d => some (grid.changeAnswer (grid.insert d))
  | .add d => (grid.add? d).map fun added => (.position added.1, added.2)
  | .nextFree => grid.nextFree?.map fun free => (.position free, grid)
  | .remove p =>
      match grid.remove p with
      | .ok (d, changed) => some (.removed d, changed)
      | .error error => some (.failed error, grid)
  | .move source target => some (grid.changeAnswer (grid.move source target))
  | .setShown p shown => some (grid.changeAnswer (grid.setShown p shown))
  | .get p => some (.found (grid.get? p), grid)
  | .isOccupied p => some (.flag (grid.isOccupied p), grid)
  | .size => some (.count grid.size, grid)
  | .isEmpty => some (.flag grid.isEmpty, grid)
  | .records => some (.records grid.records, grid)

/-!
### What stays
-/

variable {grid changed : Grid} {request : Request} {response : Response}

/-- A grid keeps its dashboard and geometry, and its positions distinct. -/
structure SameTab (grid changed : Grid) : Prop where
  distinct : changed.Distinct
  dashboard : changed.dashboard = grid.dashboard
  geometry : changed.geometry = grid.geometry

theorem Distinct.sameTab_self (distinct : grid.Distinct) : grid.SameTab grid :=
  ⟨distinct, rfl, rfl⟩

/-- Whatever is asked, positions stay distinct. -/
theorem Distinct.answer? (distinct : grid.Distinct)
    (answered : grid.answer? request = some (response, changed)) : grid.SameTab changed := by
  have afterChange {change : Except GridError Grid}
      (kept : ∀ next, change = .ok next → grid.SameTab next)
      (answered : some (grid.changeAnswer change) = some (response, changed)) :
      grid.SameTab changed := by
    cases change with
    | ok next =>
        obtain ⟨-, rfl⟩ := Prod.mk.inj (Option.some.inj answered)
        exact kept next rfl
    | error error =>
        obtain ⟨-, rfl⟩ := Prod.mk.inj (Option.some.inj answered)
        exact distinct.sameTab_self
  cases request with
  | insert d =>
      refine afterChange (fun next done => ?_) answered
      obtain ⟨free, rfl⟩ := insert_eq_ok_iff.mp done
      exact ⟨distinct.placed free, rfl, rfl⟩
  | add d =>
      obtain ⟨⟨free, next⟩, added, same⟩ := Option.map_eq_some_iff.mp answered
      obtain ⟨-, rfl⟩ := Prod.mk.inj same
      obtain ⟨search, rfl⟩ := add?_eq_some_iff.mp added
      exact ⟨distinct.placed (isOccupied_of_nextFree? search), rfl, rfl⟩
  | nextFree =>
      obtain ⟨free, search, same⟩ := Option.map_eq_some_iff.mp answered
      obtain ⟨-, rfl⟩ := Prod.mk.inj same
      exact distinct.sameTab_self
  | remove p =>
      rw [Grid.answer?] at answered
      cases removal : grid.remove p with
      | ok removed =>
          rcases removed with ⟨d, next⟩
          rw [removal] at answered
          obtain ⟨-, rfl⟩ := Prod.mk.inj (Option.some.inj answered)
          obtain ⟨-, rfl⟩ := remove_eq_ok_iff.mp removal
          exact ⟨distinct.without, rfl, rfl⟩
      | error error =>
          rw [removal] at answered
          obtain ⟨-, rfl⟩ := Prod.mk.inj (Option.some.inj answered)
          exact distinct.sameTab_self
  | move source target =>
      refine afterChange (fun next done => ?_) answered
      rw [distinct.move_eq] at done
      split at done
      · obtain rfl := Except.ok.inj done
        exact ⟨distinct.exchange, rfl, rfl⟩
      · cases done
  | setShown p shown =>
      refine afterChange (fun next done => ?_) answered
      rw [distinct.setShown_eq] at done
      split at done
      · obtain rfl := Except.ok.inj done
        exact ⟨distinct.showing, rfl, rfl⟩
      · cases done
  | get p | isOccupied p | size | isEmpty | records =>
      obtain ⟨-, rfl⟩ := Prod.mk.inj (Option.some.inj answered)
      exact distinct.sameTab_self

theorem SameTab.answer? {next : Grid} (kept : grid.SameTab changed)
    (answered : changed.answer? request = some (response, next)) : grid.SameTab next := by
  have step := kept.distinct.answer? answered
  exact ⟨step.distinct, step.dashboard.trans kept.dashboard, step.geometry.trans kept.geometry⟩

theorem Distinct.answerAll? {last : Grid} {requests : List Request} {responses : List Response}
    (distinct : grid.Distinct)
    (answered : answerAll? Grid.answer? grid requests = some (responses, last)) :
    grid.SameTab last :=
  answerAll?_keeps grid.SameTab SameTab.answer? distinct.sameTab_self answered

/-!
### The ledger

Moving, showing and hiding change nothing else of a widget.  What is left of it is its content, and the
contents on a grid are those brought in less those taken out.
-/

end Grid

/-- What neither moves nor visibility change of a widget. -/
def Dashlet.content (d : Dashlet) : Dashlet := { d with position := ⟨0, 0⟩, shown := true }

@[simp] theorem Dashlet.content_moved (d : Dashlet) (p : Position) :
    (d.moved p).content = d.content := rfl

@[simp] theorem Dashlet.content_shown (d : Dashlet) (shown : Bool) :
    ({ d with shown := shown } : Dashlet).content = d.content := rfl

theorem Dashlet.dashboard_of_content_eq {d other : Dashlet} (same : d.content = other.content) :
    d.dashboard = other.dashboard := by
  have fields := congrArg Dashlet.dashboard same
  exact fields

namespace Grid

variable {grid changed : Grid} {request : Request} {response : Response}

/-- The widgets that a request brings in if it is answered so. -/
def Request.broughtIn : Request → Response → List Dashlet
  | .insert d, .done => [d]
  | .add d, .position _ => [d]
  | _, _ => []

/-- The widgets that an answer takes out. -/
def Response.takenOut : Response → List Dashlet
  | .removed d => [d]
  | _ => []

theorem remove_perm {p : Position} {d : Dashlet} (found : grid.get? p = some d) :
    (d :: grid.dashlets.eraseP fun d => d.position == p).Perm grid.dashlets := by
  obtain ⟨here, before, after, split, missed⟩ := List.find?_eq_some_iff_append.mp found
  have rest : (grid.dashlets.eraseP fun d => d.position == p) = before ++ after := by
    rw [split, List.eraseP_append_right _ fun other member => by simpa using missed other member]
    simp [here]
  rw [rest, split]
  exact List.perm_middle.symm

/-- A change that keeps what is seen of a widget keeps what is seen of all widgets, wherever it is done. -/
theorem map_modify_of_keeps {β : Type} {seen : Dashlet → β} {change : Dashlet → Dashlet}
    (keeps : ∀ d, seen (change d) = seen d) (dashlets : List Dashlet) (index : Nat) :
    (dashlets.modify index change).map seen = dashlets.map seen := by
  apply List.ext_getElem?
  intro number
  rw [List.getElem?_map, List.getElem?_map, List.getElem?_modify]
  cases dashlets[number]? with
  | none => rfl
  | some d =>
      by_cases here : index = number
      · simp [here, keeps d]
      · simp [here]

theorem map_content_vacated {source target : Position} :
    (grid.vacated source target).map Dashlet.content = grid.dashlets.map Dashlet.content := by
  rw [vacated]
  split
  next other _ => exact map_modify_of_keeps (fun d => d.content_moved source) _ other
  next => rfl

theorem answer?_ledger (answered : grid.answer? request = some (response, changed)) :
    ((changed.dashlets ++ response.takenOut).map Dashlet.content).Perm
      ((grid.dashlets ++ request.broughtIn response).map Dashlet.content) := by
  -- Requests that neither bring in nor take out leave the list of contents as it is.
  have unchanged (contents : changed.dashlets.map Dashlet.content = grid.dashlets.map Dashlet.content)
      (quiet : response.takenOut = [] ∧ request.broughtIn response = []) :
      ((changed.dashlets ++ response.takenOut).map Dashlet.content).Perm
        ((grid.dashlets ++ request.broughtIn response).map Dashlet.content) := by
    rw [quiet.1, quiet.2, List.append_nil, List.append_nil, contents]
  cases request with
  | insert d =>
      simp only [Grid.answer?, insert] at answered
      split at answered
      · obtain ⟨rfl, rfl⟩ := Prod.mk.inj (Option.some.inj answered)
        exact unchanged rfl ⟨rfl, rfl⟩
      · obtain ⟨rfl, rfl⟩ := Prod.mk.inj (Option.some.inj answered)
        simp [Response.takenOut, Request.broughtIn]
  | add d =>
      obtain ⟨⟨free, next⟩, added, same⟩ := Option.map_eq_some_iff.mp answered
      obtain ⟨rfl, rfl⟩ := Prod.mk.inj same
      obtain ⟨-, rfl⟩ := add?_eq_some_iff.mp added
      simp [placed, Response.takenOut, Request.broughtIn]
  | nextFree =>
      obtain ⟨free, search, same⟩ := Option.map_eq_some_iff.mp answered
      obtain ⟨rfl, rfl⟩ := Prod.mk.inj same
      exact unchanged rfl ⟨rfl, rfl⟩
  | remove p =>
      rw [Grid.answer?, remove] at answered
      cases found : grid.get? p with
      | none =>
          simp only [found, Option.some.injEq, Prod.mk.injEq] at answered
          rcases answered with ⟨rfl, rfl⟩
          exact unchanged rfl ⟨rfl, rfl⟩
      | some d =>
          simp only [found, Option.some.injEq, Prod.mk.injEq] at answered
          rcases answered with ⟨rfl, rfl⟩
          simp only [Response.takenOut, Request.broughtIn, List.append_nil]
          exact ((List.perm_append_singleton d _).trans (remove_perm found)).map _
  | move source target =>
      simp only [Grid.answer?, move] at answered
      split at answered
      · obtain ⟨rfl, rfl⟩ := Prod.mk.inj (Option.some.inj answered)
        exact unchanged rfl ⟨rfl, rfl⟩
      · split at answered
        · obtain ⟨rfl, rfl⟩ := Prod.mk.inj (Option.some.inj answered)
          exact unchanged rfl ⟨rfl, rfl⟩
        · obtain ⟨rfl, rfl⟩ := Prod.mk.inj (Option.some.inj answered)
          apply unchanged _ ⟨rfl, rfl⟩
          exact (map_modify_of_keeps (fun d => d.content_moved target) _ _).trans map_content_vacated
  | setShown p shown =>
      simp only [Grid.answer?, setShown] at answered
      split at answered
      · obtain ⟨rfl, rfl⟩ := Prod.mk.inj (Option.some.inj answered)
        exact unchanged rfl ⟨rfl, rfl⟩
      · obtain ⟨rfl, rfl⟩ := Prod.mk.inj (Option.some.inj answered)
        apply unchanged _ ⟨rfl, rfl⟩
        exact map_modify_of_keeps (fun d => d.content_shown shown) _ _
  | get p | isOccupied p | size | isEmpty | records =>
      obtain ⟨rfl, rfl⟩ := Prod.mk.inj (Option.some.inj answered)
      exact unchanged rfl ⟨rfl, rfl⟩

/-- A request brings in one widget at most. -/
theorem size_of_answer? (answered : grid.answer? request = some (response, changed)) :
    changed.size ≤ grid.size + 1 := by
  have contents := (answer?_ledger answered).length_eq
  have one : (request.broughtIn response).length ≤ 1 := by
    rw [Request.broughtIn.eq_def]
    split <;> simp
  simp only [List.length_map, List.length_append] at contents
  rw [size, size]
  omega

theorem answerAll?_ledger {last : Grid} {requests : List Request} {responses : List Response}
    (answered : answerAll? answer? grid requests = some (responses, last)) :
    ((last.dashlets ++ responses.flatMap Response.takenOut).map Dashlet.content).Perm
      ((grid.dashlets ++ (List.zipWith Request.broughtIn requests responses).flatten).map
        Dashlet.content) := by
  induction requests generalizing grid responses with
  | nil =>
      obtain ⟨rfl, rfl⟩ := Prod.mk.inj (Option.some.inj answered)
      exact List.Perm.refl _
  | cons request rest ih =>
      obtain ⟨response, next, others, first, restAnswered, rfl⟩ :=
        answerAll?_cons_eq_some.mp answered
      have here := answer?_ledger first
      have there := ih restAnswered
      rw [List.perm_iff_count] at here there ⊢
      intro content
      have hereCount := here content
      have thereCount := there content
      simp only [List.flatMap_cons, List.zipWith_cons_cons, List.flatten_cons, List.map_append,
        List.count_append] at hereCount thereCount ⊢
      omega

end Grid

end DashletBoard
