/-
Module: DashletBoard.Http.Wire
Purpose: HTTP messages as bytes: the head of lines, the blank line, and the body of a given length.
Main exports: Head, Head.split?, Head.parse?, Reading, Request.read, Response.toBytes
-/
import DashletBoard.Http.Message
import DashletBoard.Http.Status
import DashletBoard.Text.Blank
import DashletBoard.Text.Digits
import DashletBoard.Text.Pieces
import DashletBoard.Text.Utf8

namespace DashletBoard.Http

/-!
### Heads
-/

/-- The head of a message: the words of its first line, and its headers with names in lower case. -/
structure Head where
  words : List String
  headers : List (String × String)
deriving Repr, Inhabited, DecidableEq

namespace Head

/-- The bytes before the blank line and those after it; none if there is no blank line yet. -/
def split? : List UInt8 → Option (List UInt8 × List UInt8)
  | 13 :: 10 :: 13 :: 10 :: rest => some ([], rest)
  | byte :: rest => (split? rest).map fun (head, body) => (byte :: head, body)
  | [] => none

/-- Reads the line of a header. -/
def header? (line : List Char) : Option (String × String) :=
  match Text.splitAtFirst ':' line with
  | (name, some value) =>
    some (String.ofList (name.map Char.toLower), Text.trim (String.ofList value))
  | (_, none) => none

/-- Reads a head; none if a line is no header or the bytes are no UTF-8. -/
def parse? (bytes : List UInt8) : Option Head :=
  match Text.ofUtf8? bytes with
  | none => none
  | some text =>
    match Text.pieces '\n' (text.toList.filter (· != '\r')) with
    | [] => none
    | first :: lines =>
      (lines.mapM header?).map fun headers =>
        { words := (Text.pieces ' ' first).map String.ofList, headers }

/-- The length of the body; none if it is not readable.  Without the header there is no body. -/
def contentLength? (head : Head) : Option Nat :=
  match head.headers.lookup "content-length" with
  | some length => Text.natural? length.toList
  | none => some 0

end Head

/-!
### Requests
-/

/-- What can be told of the bytes that came so far. -/
inductive Reading (α : Type) where
  | incomplete
  | refused
  | complete (value : α)
deriving Repr

/-- The request of a head and a body. -/
def Request.ofHead? (head : Head) (body : List UInt8) : Option Request :=
  match head.words, Text.ofUtf8? body with
  | [method, target, _], some body =>
    some { method, target, contentType := head.headers.lookup "content-type", body }
  | _, _ => none

/-- Reads a request. -/
def Request.read (bytes : List UInt8) : Reading Request :=
  match Head.split? bytes with
  | none => .incomplete
  | some (headBytes, rest) =>
    match (Head.parse? headBytes).bind fun head => head.contentLength?.map fun n => (head, n) with
    | none => .refused
    | some (head, length) =>
      if rest.length < length then .incomplete
      else
        match Request.ofHead? head (rest.take length) with
        | some request => .complete request
        | none => .refused

/-!
### Writing
-/

/-- The line of a header. -/
def headerLine (header : String × String) : String := header.1 ++ ": " ++ header.2 ++ "\r\n"

/-- The bytes of a message. -/
def messageBytes (first : String) (headers : List (String × String)) (body : String) : ByteArray :=
  (first ++ "\r\n" ++ String.join (headers.map headerLine) ++ "\r\n" ++ body).toUTF8

/-- The bytes of a response, after which the connection is closed. -/
def Response.toBytes (response : Response) : ByteArray :=
  let content := response.body.content
  let type := response.body.contentType?.map fun type => ("content-type", type)
  messageBytes ("HTTP/1.1 " ++ statusText response.status)
    (type.toList ++ [("content-length", toString content.utf8ByteSize), ("connection", "close")])
    content

end DashletBoard.Http
