/-
Module: DashletBoard.BuildServer.Wire
Purpose: Requests to the build server and its replies as bytes.
Main exports: BuildServer.Request.toBytes, BuildServer.Reply.ofBytes?
-/
import DashletBoard.BuildServer.Exchange
import DashletBoard.Http.Wire

namespace DashletBoard.BuildServer

/-- The bytes of a request.  It is made in the first version of the protocol, in which a reply has no
chunks and ends with the connection. -/
def Request.toBytes (request : Request) : ByteArray :=
  let address := request.address
  let target := String.ofList <| address.path ++ match address.query with
    | some query => '?' :: query
    | none => []
  let host := String.ofList address.host ++ address.portText
  let body := String.ofList (request.form.getD [])
  let length := if request.form.isSome then [("content-length", toString body.utf8ByteSize)] else []
  Http.messageBytes (request.method ++ " " ++ target ++ " HTTP/1.0")
    ([("host", host), ("accept", "*/*")] ++ request.headers ++ length) body

/-- Reads a reply that has ended. -/
def Reply.ofBytes? (bytes : List UInt8) : Option Reply := do
  let (headBytes, body) ← Http.Head.split? bytes
  let head ← Http.Head.parse? headBytes
  let status ← Text.natural? (← head.words[1]?).toList
  let body := match head.headers.lookup "content-length" with
    | some length => body.take ((Text.natural? length.toList).getD body.length)
    | none => body
  return { status, body := ← Text.ofUtf8? body }

end DashletBoard.BuildServer
