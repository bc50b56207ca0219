/-
Module: DashletBoard.Proofs.ServerQuestions
Purpose: What the build server reads in the requests of a client: exactly what is asked, whatever characters
  are in it.
Main exports: BuildServer.Request.Gets, BuildServer.Request.Posts, BuildServer.Question.SentBy,
  BuildServer.Request.frame, BuildServer.Client.requests_tell_exactly_what_is_asked
-/
import DashletBoard.Proofs.AddressQueries
import DashletBoard.Proofs.CrumbProtocol
import DashletBoard.Proofs.RecordTexts

namespace DashletBoard.BuildServer

variable {τ : Type} {client : Client} {known : Crumb.Knowledge} {question other : Question}
  {request : Request} {address : Http.Address} {hosts : Http.HostReader} {settings : BuildServerSettings}
  {scope : Scope}

/-!
### What the server reads

The server finds the query behind the first question mark of an address.  It reads the query, or the form of a
request that is posted, as a list of names and values.
-/

/-- The server reads some names and values in the query of a request. -/
structure Request.Gets (request : Request) (pairs : List (String × String)) : Prop where
  method : request.method = "GET"
  form : request.form = none
  query : ∃ query, (Text.splitAtFirst '?' request.address.sent.toList).2 = some query ∧
    Text.Form.decode query = pairs.map fun pair => (some pair.1, some pair.2)

/-- The server reads some names and values in the form of a request, and the request has no query. -/
structure Request.Posts (request : Request) (pairs : List (String × String)) : Prop where
  method : request.method = "POST"
  query : (Text.splitAtFirst '?' request.address.sent.toList).2 = none
  form : ∃ form, request.form = some form ∧
    Text.Form.decode form = pairs.map fun pair => (some pair.1, some pair.2)

/-- All of a request but its query and its form. -/
def Request.frame (request : Request) : Request :=
  { request with address := { request.address with query := none }, form := none }

/-- A request in which the server reads exactly what is asked.  Records are read from the JSON text that is
the value of a name. -/
inductive Question.SentBy (scope : Scope) (request : Request) : Question → Prop where
  | configuration {tab : String} (gets : request.Gets [(scope.parameter, tab)]) :
      SentBy scope request (.configuration tab)
  | store {tab data : String} {records : List Dashlet}
      (posts : request.Posts [("data", data), (scope.parameter, tab)])
      (reads : Dashlet.parseList data = .ok records) : SentBy scope request (.store tab records)
  | measures {tab group : String} (gets : request.Gets [("dashboard", tab), ("dashlet", group)]) :
      SentBy scope request (.measures tab group)
  | aggregation {tab group measure : String}
      (gets : request.Gets [("dashboard", tab), ("dashlet", group), ("measure", measure)]) :
      SentBy scope request (.aggregation tab group measure)

/-!
### Requests of a client
-/

theorem Question.parseList_recordsText (records : List Dashlet) :
    Dashlet.parseList (recordsText records) = .ok records := by
  have carried : List.Forall₂ Dashlet.IsRecord records (records.map Dashlet.toJson) := by
    rw [List.forall₂_map_right_iff, List.forall₂_same]
    exact fun d _ => d.isRecord_toJson
  exact Dashlet.parseList_of_records carried (Json.isWrittenAs_text (Dashlet.spelled_records records))

namespace Client

variable {headers : List (String × String)}

theorem gets_requestAt (plain : address.query = none) (before : '?' ∉ address.beforeQuery.toList)
    (got : question.isPosted = false) :
    (client.requestAt address headers question).Gets (question.parameters client.scope) := by
  have query : (address.withPairs (question.parameters client.scope)).query =
      some (Text.Form.encode (question.parameters client.scope)) := by
    rw [Http.Address.withPairs, plain]
  have front : '?' ∉ (address.withPairs (question.parameters client.scope)).beforeQuery.toList := before
  rw [requestAt, if_neg (Bool.eq_false_iff.mp got)]
  refine ⟨rfl, rfl, _, ?_, Text.Form.decode_encode _⟩
  rw [Http.Address.splitAtFirst_sent front, query]

theorem posts_requestAt (plain : address.query = none) (before : '?' ∉ address.beforeQuery.toList)
    (posted : question.isPosted = true) :
    (client.requestAt address headers question).Posts (question.parameters client.scope) := by
  rw [requestAt, if_pos posted]
  refine ⟨rfl, ?_, _, rfl, Text.Form.decode_encode _⟩
  rw [Http.Address.splitAtFirst_sent before, plain]

theorem sentBy_requestAt (plain : address.query = none) (before : '?' ∉ address.beforeQuery.toList) :
    question.SentBy client.scope (client.requestAt address headers question) := by
  cases question with
  | configuration tab => exact .configuration (gets_requestAt plain before rfl)
  | store tab records =>
      exact .store (posts_requestAt plain before rfl) (Question.parseList_recordsText records)
  | measures tab group => exact .measures (gets_requestAt plain before rfl)
  | aggregation tab group measure => exact .aggregation (gets_requestAt plain before rfl)

theorem request?_eq_some (made : client.request? known question = some request) :
    ∃ address headers, client.address? question = some address ∧ crumbHeaders? known = some headers ∧
      request = client.requestAt address headers question := by
  rw [request?] at made
  split at made
  next address headers leads carried =>
      exact ⟨address, headers, leads, carried, (Option.some.inj made).symm⟩
  next => cases made

/-- If the address of the actions has no question mark, the server reads in every request what is asked. -/
theorem sentBy_of_request? (actions : '?' ∉ client.actions)
    (made : client.request? known question = some request) : question.SentBy client.scope request := by
  obtain ⟨address, headers, leads, -, rfl⟩ := request?_eq_some made
  have unmarked : '?' ∉ client.actions ++ '/' :: question.action.toList := by
    have action : '?' ∉ question.action.toList := by
      cases question with
      | configuration | store | measures | aggregation =>
          rw [Question.action]
          decide
    simp [actions, action]
  exact sentBy_requestAt (Http.Address.query_parse? unmarked leads)
    (Http.Address.not_mem_beforeQuery leads)

/-!
### What is asked shows nowhere else

Questions of one kind ask for one action.
-/

/-- Two questions of one kind make requests that differ in their queries and forms alone, or none of them
makes one. -/
theorem frame_request? (same : question.action = other.action) :
    (client.request? known question).map Request.frame = (client.request? known other).map Request.frame := by
  have posted : question.isPosted = other.isPosted := by
    cases question with
    | configuration | store | measures | aggregation =>
        cases other with
        | configuration | store | measures | aggregation =>
            first
              | rfl
              | exact absurd same (by simp [Question.action])
  have leads : client.address? question = client.address? other := by rw [address?, same, address?]
  rw [request?, request?, leads]
  cases client.address? other with
  | none => rfl
  | some address =>
      cases crumbHeaders? known with
      | none => rfl
      | some headers =>
          simp only [Option.map_some, requestAt, posted]
          cases other.isPosted with
          | true => rfl
          | false => rfl

/-!
### Calls
-/

/-- For a call the client asks for a crumb, if at all, and makes the request of the question, if there is
one. -/
theorem requests_consult (client : Client) (transport : Transport τ) (session : Session τ)
    (question : Question) :
    ∃ (issued : List Request) (known : Crumb.Knowledge),
      (client.consult transport session question).1.map (·.request) =
          issued ++ (client.request? known question).toList ∧
        ∀ request ∈ issued, client.crumbRequest? = some request := by
  have learned : ∃ known world issued,
      client.learnCrumb transport.recorded ⟨session.known, session.world, []⟩ = ⟨known, world, issued⟩ ∧
        ∀ exchange ∈ issued, client.crumbRequest? = some exchange.request := by
    rw [learnCrumb]
    split
    next issuer _ issues =>
      exact ⟨_, _, [⟨issuer, (transport issuer session.world).1⟩], rfl,
        List.forall_mem_singleton.mpr issues⟩
    next => exact ⟨_, _, [], rfl, List.forall_mem_nil _⟩
  obtain ⟨known, world, issued, learns, each⟩ := learned
  refine ⟨issued.map (·.request), known, ?_, List.forall_mem_map.mpr each⟩
  rw [consult, Question.call_backend, ask, learns]
  cases client.request? known question with
  | none => simp
  | some request =>
      simp only [Transport.recorded]
      rcases transport request world with ⟨_ | reply, after⟩
      · simp
      · simp

/-!
### The client of settings
-/

theorem mem_of_mem_beforeSlashes {text : List Char} {c : Char} (member : c ∈ beforeSlashes text) :
    c ∈ text :=
  List.mem_reverse.mp ((List.dropWhile_sublist _).subset (List.mem_reverse.mp member))

theorem unmarked_actions (root : '?' ∉ settings.rootUrl.toList)
    (actionPath : '?' ∉ settings.actionPath.toList) : '?' ∉ (ofSettings hosts settings scope).actions := by
  intro member
  rcases List.mem_append.mp member with front | back
  · exact root (mem_of_mem_beforeSlashes front)
  · rcases List.mem_cons.mp back with slash | back
    · cases slash
    · exact actionPath ((List.dropWhile_sublist _).subset (mem_of_mem_beforeSlashes back))

theorem sentTo_of_request? (made : (ofSettings hosts settings scope).request? known question = some request) :
    question.SentTo hosts settings request := by
  obtain ⟨address, headers, leads, -, rfl⟩ := request?_eq_some made
  exact sentTo_requestAt leads headers

/-- If the root is an address, every question makes a request, unless no header can carry the crumb. -/
theorem isSome_request? {base : Http.Address}
    (root : Http.Address.parse? hosts (settings.root ++ ['/']) = some base)
    (carried : (crumbHeaders? known).isSome) (question : Question) :
    ((ofSettings hosts settings scope).request? known question).isSome := by
  obtain ⟨address, leads, -⟩ := exists_endpoint scope root question
  obtain ⟨headers, carried⟩ := Option.isSome_iff_exists.mp carried
  simp only [request?, leads, carried, Option.isSome_some]

/-- Neither the root nor the path of the actions has a question mark.  If the root is an address, each
question makes a request, which goes to the endpoint of the question, unless no header can carry the crumb.
In the request the server reads exactly what is asked: the names and values in their order, each with its
exact text, and from the value of records these records in their order.  This is all that a call sends beside
a request for a crumb, which is told by the settings alone.  And what is asked shows nowhere else: of two
questions of one kind both make a request or none of them does, and the requests are the same apart from
query and form. -/
theorem requests_tell_exactly_what_is_asked (hosts : Http.HostReader) {settings : BuildServerSettings}
    (root : '?' ∉ settings.rootUrl.toList) (actionPath : '?' ∉ settings.actionPath.toList)
    (scope : Scope) :
    let client := ofSettings hosts settings scope
    (∀ base known question, Http.Address.parse? hosts (settings.root ++ ['/']) = some base →
      (crumbHeaders? known).isSome → (client.request? known question).isSome) ∧
    (∀ known question request, client.request? known question = some request →
      question.SentTo hosts settings request ∧ question.SentBy scope request) ∧
    (∀ (transport : Transport τ) (session : Session τ) (question : Question),
      ∃ (issued : List Request) (known : Crumb.Knowledge),
        (client.consult transport session question).1.map (·.request) =
            issued ++ (client.request? known question).toList ∧
          ∀ request ∈ issued, client.crumbRequest? = some request) ∧
    ∀ known (question other : Question), question.action = other.action →
      (client.request? known question).map Request.frame = (client.request? known other).map Request.frame := by
  intro client
  refine ⟨fun base known question root carried => isSome_request? root carried question,
    fun known question request made => ⟨sentTo_of_request? made, ?_⟩, requests_consult _,
    fun known question other => frame_request?⟩
  exact sentBy_of_request? (unmarked_actions root actionPath) made

/-- A job on a server that has a path of its own. -/
def shop : BuildServerSettings := { rootUrl := "https://ci:8443/ci/", actionPath := "/job/shop" }

/-- The names of a tab and of a group hold all that separates or escapes, and the name of the measure is
empty.  The records of a tab hold quotes and a line end. -/
theorem requests_tell_exactly_what_is_asked_escaped :
    let records := [Dashlet.measurement "t1" "say \"é\"" "\n"]
    ∃ lookup store,
      (ofSettings .ascii shop .testCase).request? .open (.aggregation "a&b=c" "50% + é#?" "") = some lookup ∧
        lookup.address.sent = "https://ci:8443/ci/job/shop/getAggregationFromMeasure" ++
          "?dashboard=a%26b%3Dc&dashlet=50%25+%2B+%C3%A9%23%3F&measure=" ∧
        Question.SentBy .testCase lookup (.aggregation "a&b=c" "50% + é#?" "") ∧
        (ofSettings .ascii shop .testCase).request? .open (.store "t1" records) = some store ∧
        store.address.sent = "https://ci:8443/ci/job/shop/setDashboardConfiguration" ∧
        Question.SentTo .ascii shop store (.store "t1" records) ∧
        Question.SentBy .testCase store (.store "t1" records) := by
  intro records
  have root : '?' ∉ shop.rootUrl.toList := by decide
  have actionPath : '?' ∉ shop.actionPath.toList := by decide
  obtain ⟨-, tells, -⟩ := requests_tell_exactly_what_is_asked (τ := Unit) .ascii root actionPath .testCase
  have observed : ((ofSettings .ascii shop .testCase).request? .open
      (.aggregation "a&b=c" "50% + é#?" "")).map (·.address.sent) =
        some ("https://ci:8443/ci/job/shop/getAggregationFromMeasure" ++
          "?dashboard=a%26b%3Dc&dashlet=50%25+%2B+%C3%A9%23%3F&measure=") := by decide +kernel
  have stored : ((ofSettings .ascii shop .testCase).request? .open (.store "t1" records)).map
      (·.address.sent) = some "https://ci:8443/ci/job/shop/setDashboardConfiguration" := by decide +kernel
  obtain ⟨lookup, made, sent⟩ := Option.map_eq_some_iff.mp observed
  obtain ⟨store, posted, sentToo⟩ := Option.map_eq_some_iff.mp stored
  obtain ⟨goes, reads⟩ := tells _ _ _ posted
  exact ⟨lookup, store, made, sent, (tells _ _ _ made).2, posted, sentToo, goes, reads⟩

end Client

end DashletBoard.BuildServer
