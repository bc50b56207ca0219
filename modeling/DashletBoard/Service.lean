/-
Module: DashletBoard.Service
Purpose: The HTTP service: from requests to operations on the board, the navigator and the overview.
Main exports: Service, Service.initialize?, Service.scrollTop?, Service.answer?, Service.handle?
-/
import DashletBoard.Board
import DashletBoard.Http.MediaType
import DashletBoard.Http.Message
import DashletBoard.Navigator
import DashletBoard.Overview
import DashletBoard.Service.Route
import DashletBoard.Text.Form

namespace DashletBoard

open Http

/-- The state of the service. -/
structure Service where
  board : Board
  navigator : Navigator
deriving DecidableEq

namespace Service

/-- The service of some tabs, all loaded, for a page that is opened with a fragment.  None if loading has
no end. -/
def initialize? (backend : Backend σ) (geometry : Geometry) (tabs : List String)
    (fragment : Option String) (world : σ) : Option (Service × σ) :=
  (({ geometry } : Board).initialize? backend tabs world).map fun (board, world) =>
    (⟨board, .restore tabs fragment⟩, world)

/-!
### What requests carry beside their path
-/

/-- The fields of the target of a move. -/
def moveShape : Shape := [⟨"col", .word, false, false⟩, ⟨"row", .word, false, false⟩]

/-- Reads the target of a move. -/
def readMoveTarget (draft : Draft) : Except Fault Position :=
  (moveShape.read draft).map fun fields => ⟨fields.word "col" 0, fields.word "row" 0⟩

/-- The field of a visibility. -/
def visibilityShape : Shape := [⟨"show", .flag, false, false⟩]

/-- Reads a visibility. -/
def readVisibility (draft : Draft) : Except Fault Bool :=
  (visibilityShape.read draft).map fun fields => fields.flag "show" true

/-- The status for a body that is refused. -/
def faultStatus : Fault → Nat
  | .malformed => 400
  | .unfit => 422

/-- Reads a body of JSON, or gives the status with which the request is refused.  What follows the value
in the body is not looked at.  Bodies are taken to have at most 2097152 bytes: a server that limits them to
these answers 413 to a longer one before it is read. -/
def readBody (reader : Draft → Except Fault α) (request : Request) : Except Nat α :=
  if request.contentType.any announcesJson then
    match Draft.parseFront reader request.body with
    | .ok value => .ok value
    | .error fault => .error (faultStatus fault)
  else .error 415

/-- Reads the scroll offset of a query, which may lack.  Given twice, or given as anything but a word, it
is refused. -/
def scrollTop? (query : List Char) : Except Nat (Option UInt32) :=
  match (Text.Form.decode query).filter fun pair => pair.1 == some "scrollTop" with
  | [] => .ok none
  | [(_, some value)] =>
    match Text.word? value.toList with
    | some word => .ok (some word)
    | none => .error 400
  | _ => .error 400

/-!
### Answers
-/

/-- The response to an error of the board. -/
def errorResponse (error : LayoutError) : Response := .error error.status error.message

/-- The response that shows a tab. -/
def tabResponse (board : Board) (tab : String) : Response :=
  match board.view tab with
  | .ok view => .ok view.toJson
  | .error error => errorResponse error

/-- Performs an operation on a tab and shows the tab. -/
def perform? (backend : Backend σ) (service : Service) (tab : String) (action : Action)
    (world : σ) : Option (Response × Service × σ) :=
  (service.board.act? backend tab action world).map fun (answer, board, world) =>
    (match answer with
      | .ok _ => tabResponse board tab
      | .error error => errorResponse error,
      { service with board }, world)

/-- Makes a tab active.  A scroll offset is remembered also if there is no such tab. -/
def select (service : Service) (tab : String) (scrollTop : Option UInt32) : Response × Service :=
  let navigator := match scrollTop with
    | some offset => service.navigator.rememberScroll offset
    | none => service.navigator
  match navigator.select tab with
  | some navigator => (.ok navigator.toJson, { service with navigator })
  | none => (errorResponse (.unknownTab tab), { service with navigator })

/-- Answers a call.  The query and the body are read first, and a call that is refused for them changes
nothing. -/
def answer? (backend overview : Backend σ) (service : Service) (call : Call)
    (request : Request) (world : σ) : Option (Response × Service × σ) :=
  match call with
  | .health => some (⟨200, .text "ok"⟩, service, world)
  | .listTabs => some (.ok service.navigator.toJson, service, world)
  | .showTab tab => some (tabResponse service.board tab, service, world)
  | .selectTab tab =>
    match scrollTop? request.query with
    | .error status => some (.bare status, service, world)
    | .ok scrollTop =>
      let (response, service) := service.select tab scrollTop
      some (response, service, world)
  | .enterEdit tab => service.perform? backend tab .enterEdit world
  | .cancelEdit tab => service.perform? backend tab .cancelEdit world
  | .save tab => service.perform? backend tab .save world
  | .addWidget tab => service.perform? backend tab .addWidget world
  | .removeWidget tab position => service.perform? backend tab (.removeWidget position) world
  | .updateForm tab =>
    match readBody FormUpdate.ofDraft request with
    | .error status => some (.bare status, service, world)
    | .ok update => service.perform? backend tab (.updateForm update) world
  | .moveWidget tab source =>
    match readBody readMoveTarget request with
    | .error status => some (.bare status, service, world)
    | .ok target => service.perform? backend tab (.moveWidget source target) world
  | .setShown tab position =>
    match readBody readVisibility request with
    | .error status => some (.bare status, service, world)
    | .ok shown => service.perform? backend tab (.setShown position shown) world
  | .overview testCase =>
    match carousel overview testCase world with
    | (.ok items, world) => some (.ok (.array (items.map CarouselItem.toJson)), service, world)
    | (.error failure, world) => some (.error 502 failure.text, service, world)

/-- Handles a request: the path, the method, and the parameters of the path are judged in this order
before the call is answered.  HEAD is answered as GET without the content of the body.  None if the
call has no end. -/
def handle? (backend overview : Backend σ) (service : Service) (request : Request) (world : σ) :
    Option (Response × Service × σ) :=
  match Endpoint.find? request.path with
  | none => some (.bare 404, service, world)
  | some (endpoint, sent) =>
    if !endpoint.allows request.method then some (.bare 405, service, world)
    else
      match endpoint.call? sent with
      | none => some (.bare 400, service, world)
      | some call =>
        (service.answer? backend overview call request world).map fun (response, rest) =>
          (if request.method == "HEAD" then response.headOnly else response, rest)

end Service

end DashletBoard
