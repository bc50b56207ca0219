/-
Module: DashletBoard.Proofs.ServiceRefinement
Purpose: Requests to the service for tabs do what visits of the board do, and the responses tell how these
  went.
Main exports: LayoutError.AnsweredWith, Tab.answeredWith_of_act?, TabView.IsToldBy, Board.VisitTurn,
  Board.visitTurn?, Service.Tells, Service.exchange?_simulates, Service.requests_refine_visits
-/
import DashletBoard.Proofs.FailedOperations
import DashletBoard.Proofs.ServiceRequests

namespace DashletBoard

open Http

/-!
### Errors of operations

Every error of an operation has its status and its text.  A taken cell is no such error: an operation that
places a widget searches for a free cell, and a move exchanges widgets.
-/

/-- The status and the text that an error of an operation is answered with. -/
inductive LayoutError.AnsweredWith : LayoutError → Nat → String → Prop where
  | unknownTab (tab : String) :
      AnsweredWith (.unknownTab tab) 404 ("unknown dashboard tab '" ++ tab ++ "'")
  | notFound (position : Position) :
      AnsweredWith (.grid (.notFound position)) 404 ("no dashlet at grid position (" ++
        toString position.col.toNat ++ ", " ++ toString position.row.toNat ++ ")")
  | notEditing (tab : String) :
      AnsweredWith (.notEditing tab) 409 ("dashboard tab '" ++ tab ++ "' is not in edit mode")
  | incompleteForm (group : String) :
      AnsweredWith (.incompleteForm group) 422 ("no measure selected in measure group '" ++ group ++ "'")
  | backend (failure : Failure) :
      AnsweredWith (.backend failure) 502
        ("backend request failed: " ++ ": ".intercalate failure.causes)

theorem LayoutError.AnsweredWith.status_eq {error : LayoutError} {status : Nat} {text : String}
    (answered : error.AnsweredWith status text) : error.status = status := by
  cases answered with
  | unknownTab | notFound | notEditing | incompleteForm | backend => rfl

theorem message_notFound (position : Position) : (LayoutError.grid (.notFound position)).message =
    "no dashlet at grid position (" ++ toString position.col.toNat ++ ", " ++
      toString position.row.toNat ++ ")" := by
  have opening : "no dashlet at grid position " ++ "(" = "no dashlet at grid position (" := rfl
  change "no dashlet at grid position " ++ position.text = _
  rw [Position.text, ← opening]
  simp only [String.append_assoc]

theorem LayoutError.AnsweredWith.message_eq {error : LayoutError} {status : Nat} {text : String}
    (answered : error.AnsweredWith status text) : error.message = text := by
  cases answered with
  | unknownTab | notEditing | incompleteForm | backend => rfl
  | notFound position => exact message_notFound position

namespace Grid

variable {grid : Grid} {position : Position} {error : GridError}

theorem remove_eq_error (failed : (grid.remove position).map Prod.snd = .error error) :
    error = .notFound position := by
  rw [remove] at failed
  split at failed
  · exact (Except.error.inj failed).symm
  · cases failed

theorem move_eq_error {target : Position} (failed : grid.move position target = .error error) :
    error = .notFound position := by
  rw [move] at failed
  split at failed
  · exact (Except.error.inj failed).symm
  · split at failed
    · cases failed
    · cases failed

theorem setShown_eq_error {shown : Bool} (failed : grid.setShown position shown = .error error) :
    error = .notFound position := by
  rw [setShown] at failed
  split at failed
  · exact (Except.error.inj failed).symm
  · cases failed

end Grid

section Refinement

variable {σ : Type} {backend overview : Backend σ} {geometry : Geometry} {name : String} {world after : σ}

namespace Tab

variable {state next : Tab} {action : Action} {error : LayoutError}

theorem updateForm_backend {update : FormUpdate}
    (failed : state.updateForm backend name update world = (.error error, next, after)) :
    ∃ failure, error = .backend failure := by
  have group {stopped : Tab} {middle : σ}
      (chosen : state.applyGroup backend name update world = (.error error, stopped, middle)) :
      ∃ failure, error = .backend failure := by
    rw [applyGroup] at chosen
    split at chosen
    next => cases chosen
    next =>
      split at chosen
      next => cases chosen
      next => exact refreshMeasures_eq_error chosen
  have measure {changed stopped : Tab} {middle last : σ}
      (chosen : changed.applyMeasure backend name update middle = (.error error, stopped, last)) :
      ∃ failure, error = .backend failure := by
    rw [applyMeasure] at chosen
    split at chosen
    next => cases chosen
    next => exact (selectMeasure_eq_error chosen).2
  simp only [updateForm] at failed
  split at failed
  next chosen =>
    cases failed
    exact group chosen
  next =>
    split at failed
    next chosen =>
      cases failed
      exact measure chosen
    next => cases failed

theorem gridOutcome_eq_error {change : Except GridError Grid}
    (failed : state.gridOutcome world change = (.error error, next, after)) :
    ∃ gridError, change = .error gridError ∧ error = .grid gridError := by
  cases change with
  | ok grid => cases failed
  | error gridError =>
      cases failed
      exact ⟨gridError, rfl, rfl⟩

/-- Whatever the tab, an operation on it never fails for a taken cell. -/
theorem answeredWith_of_act?
    (acted : state.act? backend geometry name action world = some (.error error, next, after)) :
    ∃ status text, error.AnsweredWith status text := by
  have ofBackend (failed : ∃ failure, error = .backend failure) :
      ∃ status text, error.AnsweredWith status text := by
    obtain ⟨failure, rfl⟩ := failed
    exact ⟨502, _, .backend failure⟩
  have ofMissing {position : Position} {change : Except GridError Grid}
      (missing : ∀ gridError, change = .error gridError → gridError = .notFound position)
      (failed : state.gridOutcome world change = (.error error, next, after)) :
      ∃ status text, error.AnsweredWith status text := by
    obtain ⟨gridError, refused, rfl⟩ := gridOutcome_eq_error failed
    rw [missing gridError refused]
    exact ⟨404, _, .notFound position⟩
  have notReloaded {middle : σ}
      (failed : reload? backend geometry name middle = some (.error error, next, after)) : False := by
    cases (reload?_eq_some failed).1
  unfold act? at acted
  split at acted
  next =>
    cases acted
    exact ⟨409, _, .notEditing name⟩
  next =>
    cases action with
    | enterEdit | selectGroup =>
        exact ofBackend (refreshMeasures_eq_error (ofUnit_eq_error (Option.some.inj acted)))
    | selectMeasure measure =>
        exact ofBackend (selectMeasure_eq_error (ofUnit_eq_error (Option.some.inj acted))).2
    | updateForm update =>
        exact ofBackend (updateForm_backend (ofUnit_eq_error (Option.some.inj acted)))
    | addWidget =>
        simp only [addWidget?] at acted
        split at acted
        next =>
          cases acted
          exact ⟨422, _, .incompleteForm _⟩
        next =>
          obtain ⟨_, -, same⟩ := Option.map_eq_some_iff.mp acted
          cases same
    | removeWidget position =>
        exact ofMissing (fun _ => Grid.remove_eq_error) (Option.some.inj acted)
    | moveWidget source target =>
        exact ofMissing (fun _ => Grid.move_eq_error) (Option.some.inj acted)
    | setShown position shown =>
        exact ofMissing (fun _ => Grid.setShown_eq_error) (Option.some.inj acted)
    | cancelEdit => exact (notReloaded acted).elim
    | save =>
        simp only [save?] at acted
        split at acted
        next failure _ _ =>
          cases acted
          exact ⟨502, _, .backend failure⟩
        next => exact (notReloaded acted).elim

end Tab

/-!
### Views as they are told
-/

/-- The JSON that tells of a widget. -/
inductive DashletView.IsToldBy : DashletView → Json → Prop where
  | overview {id thumbnailUrl lightboxUrl : String} {position : Position} {shown : Bool} :
      IsToldBy ⟨.unitTestOverview, id, position, shown, thumbnailUrl, lightboxUrl, none⟩ (.object
        [("kind", .string "unitTestOverview"), ("id", .string id),
          ("position", .object [("col", .word position.col), ("row", .word position.row)]),
          ("show", .bool shown), ("thumbnailUrl", .string thumbnailUrl),
          ("lightboxUrl", .string lightboxUrl), ("title", .null)])
  | measurement {id thumbnailUrl lightboxUrl title : String} {position : Position} {shown : Bool} :
      IsToldBy ⟨.measurement, id, position, shown, thumbnailUrl, lightboxUrl, some title⟩ (.object
        [("kind", .string "measurement"), ("id", .string id),
          ("position", .object [("col", .word position.col), ("row", .word position.row)]),
          ("show", .bool shown), ("thumbnailUrl", .string thumbnailUrl),
          ("lightboxUrl", .string lightboxUrl), ("title", .string title)])

/-- The JSON that tells of a tab.  What is not there is told as null. -/
inductive TabView.IsToldBy : TabView → Json → Prop where
  | viewed {tab : String} {loadError : Option String} {dashlets : List DashletView} {items : List Json}
      (told : List.Forall₂ DashletView.IsToldBy dashlets items) :
      IsToldBy ⟨tab, .view, false, loadError, none, .empty, dashlets⟩ (.object
        [("tab", .string tab), ("mode", .string "view"), ("controlsVisible", .bool false),
          ("loadError", loadError.elim .null .string), ("form", .null), ("measures", .object []),
          ("dashlets", .array items)])
  | edited {tab : String} {loadError : Option String} {form : EditForm} {measures : Measures}
      {dashlets : List DashletView} {items : List Json}
      (told : List.Forall₂ DashletView.IsToldBy dashlets items) :
      IsToldBy ⟨tab, .edit, true, loadError, some form, measures, dashlets⟩ (.object
        [("tab", .string tab), ("mode", .string "edit"), ("controlsVisible", .bool true),
          ("loadError", loadError.elim .null .string),
          ("form", .object [("measureGroup", .string form.measureGroup),
            ("measure", form.measure.elim .null .string), ("customName", .string form.customName),
            ("customBuildCount", .string form.customBuildCount),
            ("aggregation", .string form.aggregation)]),
          ("measures", .object (measures.entries.map fun entry => (entry.1, .string entry.2))),
          ("dashlets", .array items)])

theorem optional_eq_elim (text : Option String) : Json.optional text = text.elim .null .string := by
  cases text with
  | none => rfl
  | some text => rfl

theorem Dashlet.isToldBy_view (d : Dashlet) : d.view.IsToldBy d.view.toJson := by
  rw [view, title?]
  cases d.kind with
  | unitTestOverview => exact .overview
  | measurement => exact .measurement

theorem DashletView.IsToldBy.eq_toJson {view : DashletView} {told : Json} (tells : view.IsToldBy told) :
    told = view.toJson := by
  cases tells with
  | overview | measurement => rfl

theorem DashletView.eq_map_toJson {views : List DashletView} {items : List Json}
    (tells : List.Forall₂ IsToldBy views items) : items = views.map toJson := by
  induction tells with
  | nil => rfl
  | cons first _ ih => rw [List.map_cons, ← ih, first.eq_toJson]

/-- The view of a tab is told by its JSON form. -/
theorem Tab.isToldBy_view (name : String) (state : Tab) :
    (state.view name).IsToldBy (state.view name).toJson := by
  obtain ⟨grid, mode, form, measures, loadError⟩ := state
  have widgets : List.Forall₂ DashletView.IsToldBy (grid.records.map Dashlet.view)
      ((grid.records.map Dashlet.view).map DashletView.toJson) := by
    rw [List.forall₂_map_right_iff, List.forall₂_same]
    exact List.forall_mem_map.mpr fun d _ => d.isToldBy_view
  cases mode with
  | view =>
      rw [TabView.toJson, optional_eq_elim]
      exact .viewed widgets
  | edit =>
      rw [TabView.toJson, optional_eq_elim]
      simp only [view, beq_self_eq_true, if_true, EditForm.toJson, optional_eq_elim]
      exact .edited widgets

theorem TabView.IsToldBy.eq_toJson {view : TabView} {told : Json} (tells : view.IsToldBy told) :
    told = view.toJson := by
  cases tells with
  | viewed widgets =>
      rw [toJson, optional_eq_elim, DashletView.eq_map_toJson widgets]
      rfl
  | edited widgets =>
      simp only [toJson, optional_eq_elim, DashletView.eq_map_toJson widgets, EditForm.toJson]
      rfl

/-!
### Visits, told in full
-/

namespace Board

/-- What a visit of a tab gives back, the view of the tab right after it, and the calls that were made. -/
structure VisitTurn where
  reply : VisitReply
  view : Except LayoutError TabView
  calls : List BackendCall

/-- Answers a visit while the calls for it are recorded. -/
def visitTurn? (backend : Backend σ) (place : Board × σ) (visit : String × Visit) :
    Option (VisitTurn × Board × σ) :=
  (visit? backend.recorded (place.1, place.2, []) visit).map fun (answer, board, after) =>
    (⟨answer.2, board.view visit.1, after.2⟩, board, after.1)

theorem view_of_visitTurn? {place next : Board × σ} {visit : String × Visit} {turn : VisitTurn}
    (visited : visitTurn? backend place visit = some (turn, next)) :
    turn.view = next.1.view visit.1 := by
  obtain ⟨_, -, same⟩ := Option.map_eq_some_iff.mp visited
  cases same
  rfl

end Board

namespace Service

/-!
### Responses that tell of visits
-/

/-- How an exchange tells of a visit.  After a visit that succeeded, the tab can be viewed. -/
inductive Tells : Exchange → Board.VisitTurn → Prop where
  | shown {view : TabView} {body : Json} {calls : List BackendCall} (told : view.IsToldBy body) :
      Tells ⟨⟨200, .json body⟩, calls⟩ ⟨.shown (.ok view), .ok view, calls⟩
  | unseen {error : LayoutError} {status : Nat} {text : String} {view : Except LayoutError TabView}
      {calls : List BackendCall} (answered : error.AnsweredWith status text) :
      Tells ⟨⟨status, .json (.object [("error", .string text)])⟩, calls⟩
        ⟨.shown (.error error), view, calls⟩
  | succeeded {answer : Answer} {view : TabView} {body : Json} {calls : List BackendCall}
      (told : view.IsToldBy body) :
      Tells ⟨⟨200, .json body⟩, calls⟩ ⟨.did (.ok answer), .ok view, calls⟩
  | failed {error : LayoutError} {status : Nat} {text : String} {view : Except LayoutError TabView}
      {calls : List BackendCall} (answered : error.AnsweredWith status text) :
      Tells ⟨⟨status, .json (.object [("error", .string text)])⟩, calls⟩
        ⟨.did (.error error), view, calls⟩

theorem Tells.exists_view {exchange : Exchange} {turn : Board.VisitTurn} (tells : Tells exchange turn)
    (succeeded : exchange.response.status = 200) :
    ∃ view, turn.view = .ok view ∧ exchange.response = ⟨200, .json view.toJson⟩ := by
  cases tells with
  | shown told | succeeded told => exact ⟨_, rfl, by rw [told.eq_toJson]⟩
  | unseen answered | failed answered =>
      cases answered with
      | unknownTab | notFound | notEditing | incompleteForm | backend => cases succeeded

/-- A service with its world, of which everything but the navigator is a board with its world. -/
def Holds (navigator : Navigator) (place : Service × σ) (held : Board × σ) : Prop :=
  place = (⟨held.1, navigator⟩, held.2)

/-- A request visits a tab, and its response is not cut short. -/
structure Visits (request : Request) (visit : String × Visit) : Prop where
  asks : asked request = .visit visit.1 visit.2
  whole : request.method ≠ "HEAD"

theorem tabResponse_of_view {board : Board} {tab : String} {view : TabView}
    (viewed : board.view tab = .ok view) : tabResponse board tab = ⟨200, .json view.toJson⟩ := by
  rw [tabResponse, viewed]
  rfl

theorem isToldBy_of_view {board : Board} {tab : String} {view : TabView}
    (viewed : board.view tab = .ok view) : view.IsToldBy view.toJson := by
  rw [Board.view] at viewed
  split at viewed
  next state _ =>
    obtain rfl := Except.ok.inj viewed
    exact state.isToldBy_view tab
  next => cases viewed

theorem errorResponse_of_answeredWith {error : LayoutError} {status : Nat} {text : String}
    (answered : error.AnsweredWith status text) :
    errorResponse error = ⟨status, .json (.object [("error", .string text)])⟩ := by
  rw [errorResponse, answered.status_eq, answered.message_eq]
  rfl

/-- A tab on which an operation has been performed can be viewed. -/
theorem exists_view_of_act? {board changed : Board} {action : Action} {answer : Answer}
    (acted : board.act? backend name action world = some (.ok answer, changed, after)) :
    ∃ view, changed.view name = .ok view := by
  rcases Board.effect_of_act? acted with ⟨-, failed, -⟩ | ⟨state, next, -, rfl, -⟩
  · cases failed
  · exact ⟨next.view name, by rw [Board.view, Board.tab?_setTab_self]⟩

theorem answeredWith_of_act? {board changed : Board} {action : Action} {error : LayoutError}
    (acted : board.act? backend name action world = some (.error error, changed, after)) :
    ∃ status text, error.AnsweredWith status text := by
  rcases Board.effect_of_act? acted with ⟨-, failed, -⟩ | ⟨state, next, -, -, tabActed, -⟩
  · cases failed
    exact ⟨404, _, .unknownTab name⟩
  · exact Tab.answeredWith_of_act? tabActed

theorem answeredWith_of_view {board : Board} {tab : String} {error : LayoutError}
    (unseen : board.view tab = .error error) : ∃ status text, error.AnsweredWith status text := by
  rw [Board.view] at unseen
  split at unseen
  · cases unseen
  · cases unseen
    exact ⟨404, _, .unknownTab tab⟩

/-- One request does what the visit does that it asks for, with the same calls. -/
theorem exchange?_simulates (backend overview : Backend σ) {navigator : Navigator}
    {place : Service × σ} {held : Board × σ} {request : Request} {visit : String × Visit}
    (holds : Holds navigator place held) (visits : Visits request visit) :
    Option.Rel (fun exchanged told => Tells exchanged.1 told.1 ∧ Holds navigator exchanged.2 told.2)
      (exchange? backend overview place request) (Board.visitTurn? backend held visit) := by
  rcases held with ⟨board, world⟩
  obtain rfl := holds
  rw [exchange?_of_whole visits.whole, visits.asks]
  rcases visit with ⟨tab, action | _⟩
  · rw [replyTo?, perform?, Board.visitTurn?, Board.visit?]
    rcases acted : board.act? backend.recorded tab action (world, []) with
      _ | ⟨error | answer, changed, after, calls⟩
    · exact .none
    · obtain ⟨status, text, answered⟩ := answeredWith_of_act? acted
      refine .some ⟨?_, rfl⟩
      dsimp only
      rw [errorResponse_of_answeredWith answered]
      exact .failed answered
    · obtain ⟨view, viewed⟩ := exists_view_of_act? acted
      refine .some ⟨?_, rfl⟩
      dsimp only
      rw [viewed, tabResponse_of_view viewed]
      exact .succeeded (isToldBy_of_view viewed)
  · refine .some ⟨?_, rfl⟩
    dsimp only
    cases viewed : board.view tab with
    | ok view =>
        rw [tabResponse_of_view viewed]
        exact .shown (isToldBy_of_view viewed)
    | error error =>
        obtain ⟨status, text, answered⟩ := answeredWith_of_view viewed
        rw [tabResponse, viewed]
        dsimp only
        rw [errorResponse_of_answeredWith answered]
        exact .unseen answered

/-- After a visit that succeeded, the request for the view of the tab is answered in the same way. -/
theorem exchange?_view_again {place next : Service × σ} {request again : Request}
    {visit : String × Visit} {exchange : Exchange} (visits : Visits request visit)
    (exchanged : exchange? backend overview place request = some (exchange, next))
    (succeeded : exchange.response.status = 200) (views : Visits again (visit.1, .view)) :
    exchange? backend overview next again = some (⟨exchange.response, []⟩, next) := by
  have holds : Holds place.1.navigator place (place.1.board, place.2) := rfl
  have simulates := exchange?_simulates backend overview holds visits
  rw [exchanged] at simulates
  generalize visited : Board.visitTurn? backend _ visit = told at simulates
  cases simulates with
  | some matching =>
      rcases matching with ⟨tells, after⟩
      obtain ⟨view, viewed, response⟩ := tells.exists_view succeeded
      rw [Board.view_of_visitTurn? visited] at viewed
      obtain rfl := after
      rw [exchange?_of_whole views.whole, views.asks, replyTo?, tabResponse_of_view viewed, response]
      rfl

/-- Requests that visit tabs, on any service in any world, come to an end exactly if the visits do that
they ask for.  Each response then tells of its visit: after a success it has the view of the tab, and
after a failure the text of the error, with the status of the error, which is never that a cell is taken.
The calls to the build server are the same, and so are the board and the world at the end.  A request for
the view of a tab, right after a visit of it that succeeded, gets the same response. -/
theorem requests_refine_visits (backend overview : Backend σ) (board : Board) (navigator : Navigator)
    (world : σ) {requests : List Request} {visits : List (String × Visit)}
    (all : List.Forall₂ Visits requests visits) :
    Option.Rel
        (fun exchanged told =>
          List.Forall₂ Tells exchanged.1 told.1 ∧ Holds navigator exchanged.2 told.2)
        (answerAll? (exchange? backend overview) (⟨board, navigator⟩, world) requests)
        (answerAll? (Board.visitTurn? backend) (board, world) visits) ∧
      ∀ (place next : Service × σ) (request again : Request) (visit : String × Visit)
          (exchange : Exchange), Visits request visit →
        exchange? backend overview place request = some (exchange, next) →
        exchange.response.status = 200 → Visits again (visit.1, .view) →
        exchange? backend overview next again = some (⟨exchange.response, []⟩, next) := by
  constructor
  · exact answerAll?_simulates (exchange?_simulates backend overview) rfl all
  · intro place next request again visit exchange visits exchanged succeeded views
    exact exchange?_view_again visits exchanged succeeded views

end Service

end Refinement

namespace Service

/-- A tab is edited and gets a widget; a widget that is not there is taken out, and a tab that is not there
is saved. -/
def editing : List (Request × String × Visit) :=
  [({ method := "POST", target := "/tabs/t1/edit" }, "t1", .act .enterEdit),
    ({ method := "PUT", target := "/tabs/t1/form", contentType := some "application/json",
        body := "[\"Host Health\",\"cpu\",null,null,null]" }, "t1",
      .act (.updateForm { measureGroup := some "Host Health", measure := some "cpu" })),
    ({ method := "POST", target := "/tabs/t1/widgets" }, "t1", .act .addWidget),
    ({ method := "DELETE", target := "/tabs/t1/widgets/9/9" }, "t1", .act (.removeWidget ⟨9, 9⟩)),
    ({ method := "POST", target := "/tabs/t9/save" }, "t9", .act .save),
    ({ method := "GET", target := "/tabs/t1" }, "t1", .view)]

/-- The responses to these requests. -/
def editingResponses : List Response :=
  let overview : Json := .object
    [("kind", .string "unitTestOverview"), ("id", .string "unittest_overview"),
      ("position", .object [("col", .word 1), ("row", .word 1)]), ("show", .bool true),
      ("thumbnailUrl", .string "./testRunGraph?width=410&height=300&id=unittest_overview"),
      ("lightboxUrl", .string "./testRunGraph?width=800&height=585&id=unittest_overview"),
      ("title", .null)]
  let stored : Json := .object
    [("kind", .string "measurement"), ("id", .string "cpu"),
      ("position", .object [("col", .word 2), ("row", .word 1)]), ("show", .bool true),
      ("thumbnailUrl", .string "./summarizerGraph?width=410&height=300&id=cpu"),
      ("lightboxUrl", .string "./summarizerGraph?width=800&height=585&id=cpu"),
      ("title", .string "source: Host Health-cpu\n")]
  let added : Json := .object
    [("kind", .string "measurement"), ("id", .string "cpu"),
      ("position", .object [("col", .word 3), ("row", .word 1)]), ("show", .bool true),
      ("thumbnailUrl", .string "./summarizerGraph?width=410&height=300&id=cpu&aggregation=Max"),
      ("lightboxUrl", .string "./summarizerGraph?width=800&height=585&id=cpu&aggregation=Max"),
      ("title", .string "source: Host Health-cpu\n")]
  let edited (form measures : List (String × Json)) (widgets : List Json) : Body := .json (.object
    [("tab", .string "t1"), ("mode", .string "edit"), ("controlsVisible", .bool true),
      ("loadError", .null), ("form", .object form), ("measures", .object measures),
      ("dashlets", .array widgets)])
  let initial := [("measureGroup", .string "Unit Test Overview"), ("measure", .null),
    ("customName", .string ""), ("customBuildCount", .string ""), ("aggregation", .string "")]
  let chosen := [("measureGroup", .string "Host Health"), ("measure", .string "cpu"),
    ("customName", .string ""), ("customBuildCount", .string ""), ("aggregation", .string "Max")]
  let measures := [("cpu", .string "CPU"), ("mem", .string "Memory")]
  let error (text : String) : Body := .json (.object [("error", .string text)])
  [⟨200, edited initial [] [overview, stored]⟩, ⟨200, edited chosen measures [overview, stored]⟩,
    ⟨200, edited chosen measures [overview, stored, added]⟩,
    ⟨404, error "no dashlet at grid position (9, 9)"⟩, ⟨404, error "unknown dashboard tab 't9'"⟩,
    ⟨200, edited chosen measures [overview, stored, added]⟩]

theorem requests_refine_visits_editing :
    ∃ place exchanges turns last held,
      initialize? Memory.backend {} ["t1"] none Memory.measured = some place ∧
        answerAll? (exchange? Memory.backend Memory.backend) place (editing.map Prod.fst) =
          some (exchanges, last) ∧
        answerAll? (Board.visitTurn? Memory.backend) (place.1.board, place.2) (editing.map Prod.snd) =
          some (turns, held) ∧
        exchanges.map (·.response) = editingResponses ∧
        List.Forall₂ Tells exchanges turns ∧ Holds place.1.navigator last held := by
  have observed : ((initialize? Memory.backend {} ["t1"] none Memory.measured).bind fun place =>
      (answerAll? (exchange? Memory.backend Memory.backend) place (editing.map Prod.fst)).map
        fun found => found.1.map (·.response)) = some editingResponses := by
    decide +kernel
  obtain ⟨place, started, observed⟩ := Option.bind_eq_some_iff.mp observed
  obtain ⟨⟨exchanges, last⟩, exchanged, told⟩ := Option.map_eq_some_iff.mp observed
  have all : List.Forall₂ Visits (editing.map Prod.fst) (editing.map Prod.snd) := by
    rw [List.forall₂_map_left_iff, List.forall₂_map_right_iff, List.forall₂_same]
    intro asked member
    simp only [editing, List.mem_cons, List.not_mem_nil, or_false] at member
    rcases member with rfl | rfl | rfl | rfl | rfl | rfl
    all_goals exact ⟨by decide +kernel, by decide⟩
  have refines := (requests_refine_visits Memory.backend Memory.backend place.1.board place.1.navigator
    place.2 all).1
  have whole : answerAll? (exchange? Memory.backend Memory.backend)
      (⟨place.1.board, place.1.navigator⟩, place.2) (editing.map Prod.fst) =
        some (exchanges, last) := exchanged
  rw [whole] at refines
  generalize visited : answerAll? (Board.visitTurn? Memory.backend) _ _ = turned at refines
  cases refines with
  | some matching =>
      exact ⟨place, exchanges, _, last, _, started, exchanged, visited, told, matching.1, matching.2⟩

end Service

end DashletBoard
