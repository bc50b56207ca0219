/-
Module: DashletBoard.Http.Message
Purpose: Requests to the service and its responses.
Main exports: Http.Request, Http.Body, Http.Response
-/
import DashletBoard.Json.Value

namespace DashletBoard.Http

/-- A request: method, target, and the body with its content type. -/
structure Request where
  method : String
  target : String
  contentType : Option String := none
  body : String := ""
deriving Repr, Inhabited, DecidableEq

namespace Request

/-- A character of a scheme's name. -/
def isSchemeChar (c : Char) : Bool := c.isAlphanum || ['+', '-', '.'].contains c

/-- Whether a character ends the host of an address. -/
def endsHost (c : Char) : Bool := ['/', '?', '#'].contains c

/-- The target from its path on.  A target may also be an absolute address, of which the scheme and the
host are passed over; its path is a slash if it has none. -/
def localTarget (request : Request) : List Char :=
  match request.target.toList.span isSchemeChar with
  | (_, ':' :: '/' :: '/' :: address) =>
    match address.dropWhile fun c => !endsHost c with
    | '/' :: rest => '/' :: rest
    | rest => '/' :: rest
  | _ => request.target.toList

/-- The target from its path on, without its fragment. -/
def plainTarget (request : Request) : List Char := request.localTarget.takeWhile (· != '#')

/-- The path of the target, as it is sent. -/
def path (request : Request) : List Char := request.plainTarget.takeWhile (· != '?')

/-- The query of the target, as it is sent; empty if there is none. -/
def query (request : Request) : List Char := (request.plainTarget.dropWhile (· != '?')).drop 1

end Request

/-- The body of a response. -/
inductive Body where
  | empty
  | text (content : String)
  | json (content : Json)
deriving Repr, Inhabited, DecidableEq

namespace Body

/-- What a body holds, as a text. -/
def content : Body → String
  | .empty => ""
  | .text content => content
  | .json content => content.text

/-- The media type of a body that is not empty. -/
def contentType? : Body → Option String
  | .empty => none
  | .text _ => some "text/plain; charset=utf-8"
  | .json _ => some "application/json"

end Body

/-- A response: status and body. -/
structure Response where
  status : Nat
  body : Body
deriving Repr, Inhabited, DecidableEq

namespace Response

/-- A response that says nothing but its status. -/
def bare (status : Nat) : Response := ⟨status, .empty⟩

/-- A successful response in JSON. -/
def ok (content : Json) : Response := ⟨200, .json content⟩

/-- A response that gives the text of an error. -/
def error (status : Nat) (message : String) : Response :=
  ⟨status, .json (.object [("error", .string message)])⟩

/-- The response without the content of its body. -/
def headOnly (response : Response) : Response :=
  { response with
    body := match response.body with
      | .text _ => .text ""
      | _ => .empty }

end Response

end DashletBoard.Http
