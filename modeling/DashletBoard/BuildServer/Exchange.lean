/-
Module: DashletBoard.BuildServer.Exchange
Purpose: Requests to the build server, its replies, and the way from the one to the other.
Main exports: BuildServer.Request, BuildServer.Reply, BuildServer.Transport, BuildServer.Transport.bounded,
  BuildServer.Transcript
-/
import DashletBoard.Http.Address
import DashletBoard.Http.Status

namespace DashletBoard.BuildServer

/-- A request to the build server.  The names of headers are in lower case, and a name may come twice.
A form is held in its urlencoded text. -/
structure Request where
  method : String
  address : Http.Address
  headers : List (String × String) := []
  form : Option (List Char) := none
deriving Repr, DecidableEq

/-- A reply of the build server. -/
structure Reply where
  status : Nat
  body : String := ""
deriving Repr, Inhabited, DecidableEq

namespace Reply

/-- Whether the request succeeded. -/
def isSuccess (reply : Reply) : Bool := Http.isSuccess reply.status

/-- The body as a text; a byte order mark at its front is no part of it. -/
def text (reply : Reply) : String := String.ofList (Text.withoutMark reply.body.toList)

end Reply

/-- The way of a request through a world `τ`: the reply, or none if the request cannot be sent. -/
abbrev Transport (τ : Type) := Request → τ → Option Reply × τ

/-- The greatest length of the address of a request, in bytes.  A request to a longer one is not sent. -/
def longestAddress : Nat := 65534

/-- The transport that sends no request to an address that is too long. -/
def Transport.bounded (transport : Transport τ) : Transport τ := fun request world =>
  if request.address.text.utf8ByteSize ≤ longestAddress then transport request world else (none, world)

/-!
### Transcripts

A calculation that needs replies can be run over a list of those that are known.  It then tells which
request comes next; once its reply is known, too, the calculation is run again from the start.
-/

/-- The known replies that are still to be given, and the first request beyond them. -/
structure Transcript where
  known : List (Option Reply)
  wanted : Option Request := none
deriving Repr, DecidableEq

/-- Gives the known replies in order.  After the first request beyond them nothing can be sent. -/
def Transcript.transport : Transport Transcript := fun request transcript =>
  match transcript.wanted, transcript.known with
  | none, reply :: rest => (reply, { transcript with known := rest })
  | none, [] => (none, { transcript with wanted := some request })
  | some _, _ => (none, transcript)

end DashletBoard.BuildServer
