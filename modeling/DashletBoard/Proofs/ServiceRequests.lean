/-
Module: DashletBoard.Proofs.ServiceRequests
Purpose: What a request asks of the service once all of it is read, that its answer depends on this alone,
  and exchanges with the service, each with the calls to the build server that it makes.
Main exports: Service.Asked, Service.asked, Service.RefusedFor, Service.asked_eq_refused_iff,
  Service.handle?_eq, Service.reads_of_safe, Service.Exchange, Service.exchange?,
  Service.exchange?_of_reads, Service.Exchanged, Service.exchanged_of_exchange?, Action.isServed,
  Service.isServed_of_asked
-/
import DashletBoard.Proofs.TabIsolation
import DashletBoard.Service

namespace DashletBoard

open Http

namespace Service

/-!
### What requests ask

The path, the method, the parameters of the path, and the query or the body of a request are read before
anything is done.  Nothing of this looks at the state of the service.
-/

/-- What a request asks, or the status with which it is refused. -/
inductive Asked where
  | refused (status : Nat)
  | health
  | tabs
  | select (tab : String) (scrollTop : Option UInt32)
  | visit (tab : String) (visit : Visit)
  | overview (testCase : String)
deriving Repr, DecidableEq

/-- What is asked with a value that is read beside the path. -/
def Asked.ofRead {α : Type} (asks : α → Asked) : Except Nat α → Asked
  | .ok value => asks value
  | .error status => .refused status

/-- What a call asks, with the query or the body of its request. -/
def Call.asked (request : Request) : Call → Asked
  | .health => .health
  | .listTabs => .tabs
  | .showTab tab => .visit tab .view
  | .selectTab tab => .ofRead (.select tab) (scrollTop? request.query)
  | .enterEdit tab => .visit tab (.act .enterEdit)
  | .cancelEdit tab => .visit tab (.act .cancelEdit)
  | .save tab => .visit tab (.act .save)
  | .updateForm tab =>
      .ofRead (fun update => .visit tab (.act (.updateForm update)))
        (readBody FormUpdate.ofDraft request)
  | .addWidget tab => .visit tab (.act .addWidget)
  | .removeWidget tab position => .visit tab (.act (.removeWidget position))
  | .moveWidget tab source =>
      .ofRead (fun target => .visit tab (.act (.moveWidget source target)))
        (readBody readMoveTarget request)
  | .setShown tab position =>
      .ofRead (fun shown => .visit tab (.act (.setShown position shown)))
        (readBody readVisibility request)
  | .overview testCase => .overview testCase

/-- What a request asks. -/
def asked (request : Request) : Asked :=
  match Endpoint.find? request.path with
  | none => .refused 404
  | some (endpoint, sent) =>
      if endpoint.allows request.method then
        match endpoint.call? sent with
        | none => .refused 400
        | some call => call.asked request
      else .refused 405

/-!
### Refused requests
-/

/-- Why a request is refused, and with which status. -/
inductive RefusedFor (request : Request) : Nat → Prop where
  | path (unknown : Endpoint.find? request.path = none) : RefusedFor request 404
  | method {endpoint : Endpoint} {sent : List (List Char)}
      (found : Endpoint.find? request.path = some (endpoint, sent))
      (other : endpoint.allows request.method = false) : RefusedFor request 405
  | parameters {endpoint : Endpoint} {sent : List (List Char)}
      (found : Endpoint.find? request.path = some (endpoint, sent))
      (allowed : endpoint.allows request.method = true) (undecoded : endpoint.call? sent = none) :
      RefusedFor request 400
  | content {endpoint : Endpoint} {sent : List (List Char)} {call : Call} {status : Nat}
      (found : Endpoint.find? request.path = some (endpoint, sent))
      (allowed : endpoint.allows request.method = true)
      (decoded : endpoint.call? sent = some call)
      (unread : call.asked request = .refused status) : RefusedFor request status

theorem asked_eq_refused_iff {request : Request} {status : Nat} :
    asked request = .refused status ↔ RefusedFor request status := by
  constructor
  · intro refused
    rw [asked] at refused
    split at refused
    next unknown =>
      cases refused
      exact .path unknown
    next endpoint sent found =>
      split at refused
      next allowed =>
        split at refused
        next undecoded =>
          cases refused
          exact .parameters found allowed undecoded
        next call decoded => exact .content found allowed decoded refused
      next other =>
        cases refused
        exact .method found (Bool.not_eq_true _ ▸ other)
  · intro refused
    cases refused with
    | path unknown => simp [asked, unknown]
    | method found other => simp [asked, found, other]
    | parameters found allowed undecoded => simp [asked, found, allowed, undecoded]
    | content found allowed decoded unread => simp [asked, found, allowed, decoded, unread]

theorem mem_of_readBody {α : Type} {reader : Draft → Except Fault α} {request : Request} {status : Nat}
    (refused : readBody reader request = .error status) : status ∈ [400, 415, 422] := by
  rw [readBody] at refused
  split at refused
  · split at refused
    next => cases refused
    next fault _ =>
      obtain rfl := Except.error.inj refused
      cases fault with
      | malformed => decide
      | unfit => decide
  · obtain rfl := Except.error.inj refused
    decide

theorem eq_of_scrollTop? {query : List Char} {status : Nat}
    (refused : scrollTop? query = .error status) : status = 400 := by
  rw [scrollTop?] at refused
  split at refused
  next => cases refused
  next =>
    split at refused
    next => cases refused
    next => exact (Except.error.inj refused).symm
  next => exact (Except.error.inj refused).symm

/-- The query and the body of a call are refused with one of three statuses. -/
theorem mem_of_unread {call : Call} {request : Request} {status : Nat}
    (unread : call.asked request = .refused status) : status ∈ [400, 415, 422] := by
  have ofRead {α : Type} {asks : α → Asked} {read : Except Nat α}
      (accepted : ∀ value, asks value ≠ .refused status)
      (unread : Asked.ofRead asks read = .refused status) : read = .error status := by
    cases read with
    | ok value => exact absurd unread (accepted value)
    | error other => rw [Asked.refused.inj unread]
  cases call with
  | selectTab tab =>
      rw [eq_of_scrollTop? (ofRead (fun _ same => by cases same) unread)]
      decide
  | updateForm tab => exact mem_of_readBody (ofRead (fun _ same => by cases same) unread)
  | moveWidget tab source => exact mem_of_readBody (ofRead (fun _ same => by cases same) unread)
  | setShown tab position => exact mem_of_readBody (ofRead (fun _ same => by cases same) unread)
  | _ => cases unread

theorem RefusedFor.status_mem {request : Request} {status : Nat} (refused : RefusedFor request status) :
    status ∈ [400, 404, 405, 415, 422] := by
  cases refused with
  | path | method | parameters => decide
  | content _ _ _ unread =>
      have among := mem_of_unread unread
      simp only [List.mem_cons, List.not_mem_nil, or_false] at among ⊢
      omega

/-!
### Answers
-/

section Answers

variable {σ : Type} {backend overview : Backend σ} {service : Service} {world : σ} {request : Request}

/-- The answer to what is asked. -/
def replyTo? (backend overview : Backend σ) (service : Service) (world : σ) :
    Asked → Option (Response × Service × σ)
  | .refused status => some (.bare status, service, world)
  | .health => some (⟨200, .text "ok"⟩, service, world)
  | .tabs => some (.ok service.navigator.toJson, service, world)
  | .select tab scrollTop =>
      let (response, changed) := service.select tab scrollTop
      some (response, changed, world)
  | .visit tab .view => some (tabResponse service.board tab, service, world)
  | .visit tab (.act action) => service.perform? backend tab action world
  | .overview testCase =>
      match carousel overview testCase world with
      | (.ok items, after) => some (.ok (.array (items.map CarouselItem.toJson)), service, after)
      | (.error failure, after) => some (.error 502 failure.text, service, after)

theorem answer?_eq (call : Call) : service.answer? backend overview call request world =
    service.replyTo? backend overview world (call.asked request) := by
  cases call with
  | selectTab tab =>
      rw [answer?, Call.asked]
      cases scrollTop? request.query with
      | ok scrollTop => rfl
      | error status => rfl
  | updateForm tab =>
      rw [answer?, Call.asked]
      cases readBody FormUpdate.ofDraft request with
      | ok update => rfl
      | error status => rfl
  | moveWidget tab source =>
      rw [answer?, Call.asked]
      cases readBody readMoveTarget request with
      | ok target => rfl
      | error status => rfl
  | setShown tab position =>
      rw [answer?, Call.asked]
      cases readBody readVisibility request with
      | ok shown => rfl
      | error status => rfl
  | _ => rfl

/-- The response to a method: HEAD gets the response to GET without the content of its body. -/
def forMethod (method : String) (response : Response) : Response :=
  if method == "HEAD" then response.headOnly else response

@[simp] theorem forMethod_bare (method : String) (status : Nat) :
    forMethod method (.bare status) = .bare status := by
  rw [forMethod]
  split
  · rfl
  · rfl

/-- A request is answered by what it asks; beside this, only its method shows in the response. -/
theorem handle?_eq : service.handle? backend overview request world =
    (service.replyTo? backend overview world (asked request)).map fun (response, rest) =>
      (forMethod request.method response, rest) := by
  rw [handle?, asked]
  cases Endpoint.find? request.path with
  | none => simp [replyTo?]
  | some found =>
      rcases found with ⟨endpoint, sent⟩
      cases allowed : endpoint.allows request.method with
      | false => simp [replyTo?, allowed]
      | true =>
          cases decoded : endpoint.call? sent with
          | none => simp [replyTo?, allowed, decoded]
          | some call =>
              simp only [allowed, decoded, Bool.not_true, Bool.false_eq_true, if_false, if_true,
                answer?_eq]
              rfl

end Answers

/-!
### Requests that only read
-/

/-- Whether what is asked can be answered without a change, but for what a load does to the world. -/
def Asked.reads : Asked → Bool
  | .select _ _ | .visit _ (.act _) => false
  | _ => true

theorem endpoint_of_ofTexts? {endpoint : Endpoint} {texts : List String} {call : Call}
    (made : endpoint.ofTexts? texts = some call) : call.endpoint = endpoint := by
  fun_cases Endpoint.ofTexts? endpoint texts with
  | case10 tab col row | case11 tab col row | case12 tab col row =>
      obtain ⟨position, -, rfl⟩ := Option.map_eq_some_iff.mp made
      rfl
  | case14 => simp [Endpoint.ofTexts?] at made
  | _ =>
      obtain rfl := Option.some.inj made
      rfl

theorem endpoint_of_call? {endpoint : Endpoint} {sent : List (List Char)} {call : Call}
    (decoded : endpoint.call? sent = some call) : call.endpoint = endpoint := by
  rw [Endpoint.call?] at decoded
  split at decoded
  next texts _ => exact endpoint_of_ofTexts? decoded
  next => cases decoded

/-- Only what is asked for with GET is allowed for GET and HEAD. -/
theorem method_of_allows {endpoint : Endpoint} {method : String}
    (safe : method = "GET" ∨ method = "HEAD") (allowed : endpoint.allows method = true) :
    endpoint.method = "GET" := by
  cases endpoint with
  | health | listTabs | showTab | overview => rfl
  | _ =>
      rcases safe with rfl | rfl
      · simp [Endpoint.allows, Endpoint.method] at allowed
      · simp [Endpoint.allows, Endpoint.method] at allowed

theorem reads_of_get {call : Call} {request : Request} (get : call.endpoint.method = "GET") :
    (call.asked request).reads = true := by
  cases call with
  | health | listTabs | showTab | overview => rfl
  | _ => simp [Call.endpoint, Endpoint.method] at get

/-- GET and HEAD requests only read, whatever their path. -/
theorem reads_of_safe {request : Request} (safe : request.method = "GET" ∨ request.method = "HEAD") :
    (asked request).reads = true := by
  rw [asked]
  split
  next => rfl
  next endpoint sent _ =>
    split
    next allowed =>
      have get := method_of_allows safe allowed
      split
      next => rfl
      next call decoded =>
        rw [← endpoint_of_call? decoded] at get
        exact reads_of_get get
    next => rfl

/-!
### Exchanges

What is seen of the service from outside are its responses, and the calls that it makes to the build
server for each of them.
-/

/-- A response with the calls that were made for it. -/
structure Exchange where
  response : Response
  calls : List BackendCall

section Exchanges

variable {σ : Type} {backend overview : Backend σ} {place : Service × σ} {request : Request}

/-- Answers a request while the calls for it are recorded. -/
def exchange? (backend overview : Backend σ) (place : Service × σ) (request : Request) :
    Option (Exchange × Service × σ) :=
  (place.1.handle? backend.recorded overview.recorded request (place.2, [])).map
    fun (response, service, after) => (⟨response, after.2⟩, service, after.1)

/-- Every request but one with HEAD gets the whole answer to what it asks. -/
theorem exchange?_of_whole (whole : request.method ≠ "HEAD") :
    exchange? backend overview place request =
      (place.1.replyTo? backend.recorded overview.recorded (place.2, []) (asked request)).map
        fun (response, service, after) => (⟨response, after.2⟩, service, after.1) := by
  rw [exchange?, handle?_eq, Option.map_map]
  congr 1
  funext answered
  simp [forMethod, whole]

theorem exchange?_refused {status : Nat} (refused : asked request = .refused status) :
    exchange? backend overview place request = some (⟨.bare status, []⟩, place) := by
  rw [exchange?, handle?_eq, refused]
  simp [replyTo?]

/-- A request that only reads comes to an end and leaves the service as it is, and the world as well if
loads do. -/
theorem exchange?_of_reads (reads : (asked request).reads = true)
    (quiet : ∀ name world, (overview.load name world).2 = world) :
    ∃ exchange, exchange? backend overview place request = some (exchange, place) := by
  rcases place with ⟨service, world⟩
  rw [exchange?, handle?_eq]
  cases what : asked request with
  | refused | health | tabs => exact ⟨_, rfl⟩
  | select tab scrollTop =>
      rw [what] at reads
      cases reads
  | visit tab visit =>
      cases visit with
      | view => exact ⟨_, rfl⟩
      | act action =>
          rw [what] at reads
          cases reads
  | overview testCase =>
      rw [replyTo?, carousel]
      rcases loaded : overview.recorded.load testCase (world, []) with ⟨answer, after⟩
      obtain rfl : after.1 = world :=
        (congrArg (fun outcome => outcome.2.1) loaded).symm.trans (quiet testCase world)
      cases answer with
      | ok records => exact ⟨_, rfl⟩
      | error failure => exact ⟨_, rfl⟩

/-!
### What exchanges do
-/

/-- A selection of a tab leaves the board as it is, whether there is such a tab or not. -/
theorem board_select (service : Service) (tab : String) (scrollTop : Option UInt32) :
    (service.select tab scrollTop).2.board = service.board := by
  simp only [select]
  split
  · rfl
  · rfl

/-- Everything that an exchange can do.  Only an operation on a tab changes the board, and only a selection
changes the navigator. -/
inductive Exchanged (backend : Backend σ) (place : Service × σ) :
    Asked → List BackendCall → Service × σ → Prop where
  | acted {tab : String} {action : Action} {reply : BoardReply} {board : Board} {world : σ}
      {calls : List BackendCall}
      (acted : place.1.board.act? backend.recorded tab action (place.2, []) =
        some (reply, board, world, calls)) :
      Exchanged backend place (.visit tab (.act action)) calls (⟨board, place.1.navigator⟩, world)
  | selected {tab : String} {scrollTop : Option UInt32} :
      Exchanged backend place (.select tab scrollTop) []
        ((place.1.select tab scrollTop).2, place.2)
  | read {asked : Asked} {calls : List BackendCall} {world : σ} (reads : asked.reads = true)
      (loads : ∀ call ∈ calls, ∃ name answer, call = .load name answer) :
      Exchanged backend place asked calls (place.1, world)

/-- An exchange that comes to an end does one of these things. -/
theorem exchanged_of_exchange? {exchange : Exchange} {next : Service × σ}
    (answered : exchange? backend overview place request = some (exchange, next)) :
    Exchanged backend place (asked request) exchange.calls next := by
  have none (call : BackendCall) (member : call ∈ []) :
      ∃ name answer, call = .load name answer := absurd member List.not_mem_nil
  rw [exchange?, handle?_eq, Option.map_map, Option.map_eq_some_iff] at answered
  obtain ⟨⟨response, service, world, calls⟩, replied, same⟩ := answered
  cases same
  cases what : asked request with
  | refused | health | tabs =>
      rw [what] at replied
      cases replied
      exact .read rfl none
  | select tab scrollTop =>
      rw [what] at replied
      cases replied
      exact .selected
  | visit tab visit =>
      rw [what] at replied
      cases visit with
      | view =>
          cases replied
          exact .read rfl none
      | act action =>
          obtain ⟨⟨reply, board, after⟩, acted, same⟩ := Option.map_eq_some_iff.mp replied
          cases same
          exact .acted acted
  | overview testCase =>
      rw [what, replyTo?, carousel] at replied
      have one : ∀ call ∈ [BackendCall.load testCase (overview.load testCase place.2).1],
          ∃ name answer, call = .load name answer :=
        List.forall_mem_singleton.mpr ⟨_, _, rfl⟩
      rcases loaded : overview.recorded.load testCase (place.2, []) with ⟨answer, after⟩
      have grown : after.2 = [.load testCase (overview.load testCase place.2).1] :=
        (congrArg (fun outcome => outcome.2.2) loaded).symm
      rw [loaded] at replied
      cases answer with
      | ok records | error failure =>
          cases replied
          rw [← grown] at one
          exact .read rfl one

end Exchanges

end Service

/-!
### Operations that requests ask for
-/

/-- Whether a request can ask for an operation.  A group and a measure are chosen by updates of the form
only. -/
def Action.isServed : Action → Bool
  | .selectGroup _ | .selectMeasure _ => false
  | _ => true

namespace Service

variable {request : Request} {tab : String} {action : Action}

theorem isServed_of_call {call : Call} (asks : call.asked request = .visit tab (.act action)) :
    action.isServed = true := by
  have ofRead {α : Type} {act : α → Action} {name : String} {read : Except Nat α}
      (served : ∀ value, (act value).isServed = true)
      (asks : Asked.ofRead (fun value => .visit name (.act (act value))) read =
        .visit tab (.act action)) : action.isServed = true := by
    cases read with
    | ok value =>
        cases asks
        exact served value
    | error status => cases asks
  cases call with
  | enterEdit | cancelEdit | save | addWidget | removeWidget =>
      cases asks
      rfl
  | updateForm | moveWidget | setShown => exact ofRead (fun _ => rfl) asks
  | selectTab name =>
      simp only [Call.asked] at asks
      cases read : scrollTop? request.query with
      | ok scrollTop =>
          rw [read] at asks
          cases asks
      | error status =>
          rw [read] at asks
          cases asks
  | _ => cases asks

theorem isServed_of_asked (asks : asked request = .visit tab (.act action)) :
    action.isServed = true := by
  rw [asked] at asks
  split at asks
  next => cases asks
  next =>
    split at asks
    next =>
      split at asks
      next => cases asks
      next => exact isServed_of_call asks
    next => cases asks

end Service

end DashletBoard
