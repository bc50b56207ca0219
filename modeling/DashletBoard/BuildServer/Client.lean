/-
Module: DashletBoard.BuildServer.Client
Purpose: The client of the build server: its questions as requests, and the replies as answers.
Main exports: Question, Client, Client.request?, Session, Client.ask, Client.backend
-/
import DashletBoard.Backend
import DashletBoard.BuildServer.Crumb
import DashletBoard.Dashlet.Record
import DashletBoard.Settings
import DashletBoard.Text.Base64
import DashletBoard.Text.Blank

namespace DashletBoard.BuildServer

/-!
### Questions
-/

/-- What the build server is asked for. -/
inductive Question where
  | configuration (tab : String)
  | store (tab : String) (records : List Dashlet)
  | measures (tab group : String)
  | aggregation (tab group measure : String)
deriving Repr, DecidableEq

namespace Question

/-- The name of the action that answers a question. -/
def action : Question → String
  | .configuration _ => "getDashboardConfiguration"
  | .store _ _ => "setDashboardConfiguration"
  | .measures _ _ => "getAvailableMeasures"
  | .aggregation _ _ _ => "getAggregationFromMeasure"

/-- The JSON text of records. -/
def recordsText (records : List Dashlet) : String := (Json.array (records.map Dashlet.toJson)).text

/-- The parameters of a question.  The scope is the name of the parameter that names the tab of records;
lookups name the tab a dashboard in any scope. -/
def parameters (scope : Scope) : Question → List (String × String)
  | .configuration tab => [(scope.parameter, tab)]
  | .store tab records => [("data", recordsText records), (scope.parameter, tab)]
  | .measures tab group => [("dashboard", tab), ("dashlet", group)]
  | .aggregation tab group measure =>
    [("dashboard", tab), ("dashlet", group), ("measure", measure)]

/-- Whether a question is posted as a form.  The parameters of any other one are its query. -/
def isPosted : Question → Bool
  | .store _ _ => true
  | _ => false

end Question

/-!
### Requests
-/

/-- A client: the way to read hosts, the address of the server, the address below which the actions are, the
scope of the tabs, and name and token. -/
structure Client where
  hosts : Http.HostReader
  root : List Char
  actions : List Char
  scope : Scope
  login : Option (String × String)

namespace Client

/-- A text without the slashes at its front. -/
def afterSlashes (text : List Char) : List Char := text.dropWhile (· == '/')

/-- A text without the slashes at its end. -/
def beforeSlashes (text : List Char) : List Char := (afterSlashes text.reverse).reverse

/-- The client of the settings.  It names itself only if it has both a name and a token. -/
def ofSettings (hosts : Http.HostReader) (settings : BuildServerSettings) (scope : Scope) : Client :=
  let root := beforeSlashes settings.rootUrl.toList
  { hosts, root
    actions := root ++ '/' :: beforeSlashes (afterSlashes settings.actionPath.toList)
    scope
    login := match settings.username, settings.apiToken with
      | some name, some token => some (name, token)
      | _, _ => none }

/-- The header by which a client names itself. -/
def authorization (login : String × String) : String × String :=
  ("authorization",
    "Basic " ++ String.ofList
      (Text.Base64.encode (Text.utf8Bytes (login.1.toList ++ ':' :: login.2.toList))))

/-- The headers by which the client names itself to an address: first what the address holds, then what
the client holds. -/
def authorizations (client : Client) (address : Http.Address) : List (String × String) :=
  (address.login.toList ++ client.login.toList).map authorization

/-- The request for a crumb; none if the server's address is no address. -/
def crumbRequest? (client : Client) : Option Request :=
  (Http.Address.parse? client.hosts (client.root ++ "/crumbIssuer/api/json".toList)).map fun address =>
    { method := "GET", address, headers := client.authorizations address }

/-- The address of the action that answers a question. -/
def address? (client : Client) (question : Question) : Option Http.Address :=
  Http.Address.parse? client.hosts (client.actions ++ '/' :: question.action.toList)

/-- The header of a form's content. -/
def formHeader : String × String := ("content-type", "application/x-www-form-urlencoded")

/-- The request that a question makes at an address, with some more headers. -/
def requestAt (client : Client) (address : Http.Address) (headers : List (String × String))
    (question : Question) : Request :=
  let named := client.authorizations address ++ headers
  let parameters := question.parameters client.scope
  if question.isPosted then
    { method := "POST", address, headers := formHeader :: named
      form := some (Text.Form.encode parameters) }
  else { method := "GET", address := address.withPairs parameters, headers := named }

/-- The headers of what is known of the crumb; none if no header can carry it. -/
def crumbHeaders? (known : Crumb.Knowledge) : Option (List (String × String)) :=
  match known.crumb? with
  | some crumb => crumb.header?.map fun header => [header]
  | none => some []

/-- The request that a question makes; none if it cannot be sent, as its address is no address or no
header can carry the crumb. -/
def request? (client : Client) (known : Crumb.Knowledge) (question : Question) : Option Request :=
  match client.address? question, crumbHeaders? known with
  | some address, some headers => some (client.requestAt address headers question)
  | _, _ => none

end Client

/-!
### Sessions
-/

/-- What a client knows of the crumb, and the world of its transport. -/
structure Session (τ : Type) where
  known : Crumb.Knowledge := .open
  world : τ

/-- The failure of a request that cannot be sent. -/
def notSent : Failure := .of "Failed to send request to Jenkins"

/-- The failure of a request that the server refused. -/
def refused (request : Request) (reply : Reply) : Failure :=
  .of ("Request to " ++ request.address.text ++ " failed with status "
    ++ Http.statusText reply.status ++ ": " ++ reply.text)

namespace Client

/-- Asks for the crumb, unless it is known. -/
def learnCrumb (client : Client) (transport : Transport τ) (session : Session τ) : Session τ :=
  match session.known, client.crumbRequest? with
  | .open, some request =>
    let (reply, world) := transport request session.world
    ⟨.ofReply reply, world⟩
  | _, _ => session

/-- Asks a question: first for the crumb, if it is not known, and then the question itself. -/
def ask (client : Client) (transport : Transport τ) (question : Question) (session : Session τ) :
    Except Failure Reply × Session τ :=
  let session := client.learnCrumb transport session
  match client.request? session.known question with
  | none => (.error notSent, session)
  | some request =>
    match transport request session.world with
    | (none, world) => (.error notSent, { session with world })
    | (some reply, world) =>
      (if reply.isSuccess then .ok reply else .error (refused request reply),
        { session with world })

end Client

/-!
### Answers
-/

namespace Reply

/-- The records of a reply. -/
def records (reply : Reply) : Except Failure (List Dashlet) :=
  (Dashlet.parseList reply.body).mapError fun _ =>
    .of "Failed to parse dashboard configuration"

/-- The measures of a reply. -/
def measures (reply : Reply) : Except Failure Measures :=
  match Draft.parse Draft.readTextMap reply.body with
  | .ok entries => .ok (.ofList entries)
  | .error _ => .error (.of "Failed to parse available measures")

/-- The aggregation of a reply: its text without blanks at the ends. -/
def aggregation (reply : Reply) : String := Text.trim reply.text

end Reply

/-- The answer that a reply gives, if there is one. -/
def answered (read : Reply → Except Failure α) :
    Except Failure Reply × Session τ → Except Failure α × Session τ
  | (.ok reply, session) => (read reply, session)
  | (.error failure, session) => (.error failure, session)

/-- The calls to the build server, made by a client over a transport. -/
def Client.backend (client : Client) (transport : Transport τ) : Backend (Session τ) where
  load tab session := answered Reply.records (client.ask transport (.configuration tab) session)
  save tab records session :=
    answered (fun _ => .ok ()) (client.ask transport (.store tab records) session)
  measures tab group session :=
    answered Reply.measures (client.ask transport (.measures tab group) session)
  aggregation tab group measure session :=
    answered (fun reply => .ok reply.aggregation)
      (client.ask transport (.aggregation tab group measure) session)

end DashletBoard.BuildServer
