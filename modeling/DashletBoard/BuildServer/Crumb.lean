/-
Module: DashletBoard.BuildServer.Crumb
Purpose: The crumbs by which the build server tells its own clients from forged requests.
Main exports: Crumb, Crumb.parse, Crumb.header?, Crumb.Knowledge, Crumb.Knowledge.ofReply
-/
import DashletBoard.BuildServer.Exchange
import DashletBoard.Http.MediaType
import DashletBoard.Json.Record

namespace DashletBoard.BuildServer

/-- A crumb: the header that carries it, and its value. -/
structure Crumb where
  field : String
  value : String
deriving Repr, Inhabited, DecidableEq

namespace Crumb

/-- The fields of a crumb's record. -/
def shape : Shape := [⟨"crumbRequestField", .text, false, false⟩, ⟨"crumb", .text, false, false⟩]

/-- Reads a crumb from its record. -/
def ofDraft (draft : Draft) : Except Fault Crumb :=
  (shape.read draft).map fun fields =>
    ⟨fields.text "crumbRequestField" "", fields.text "crumb" ""⟩

/-- Reads a text that is the record of a crumb. -/
def parse (text : String) : Except Fault Crumb := Draft.parse ofDraft text

/-- Whether a text can be the name of a header. -/
def isHeaderName (name : String) : Bool := !name.isEmpty && name.toList.all Http.isTokenChar

/-- Whether a text can be the value of a header: of the control characters of ASCII it may have tabs
only. -/
def isHeaderValue (value : String) : Bool :=
  value.toList.all fun c => (32 ≤ c.toNat && c.toNat != 127) || c == '\t'

/-- The header that carries a crumb, if one can. -/
def header? (crumb : Crumb) : Option (String × String) :=
  if isHeaderName crumb.field && isHeaderValue crumb.value then
    some (String.ofList (crumb.field.toList.map Char.toLower), crumb.value)
  else none

/-- What is known of the server's crumb.  Only what is final is known: that the server issues no crumbs,
or the crumb that it issued. -/
inductive Knowledge where
  | open
  | notIssued
  | issued (crumb : Crumb)
deriving Repr, Inhabited, DecidableEq

namespace Knowledge

/-- What the issuer's reply tells.  A server without an issuer does not find it, and any other reply that
is no crumb tells nothing. -/
def ofReply : Option Reply → Knowledge
  | none => .open
  | some reply =>
    if reply.status = 404 then .notIssued
    else if reply.isSuccess then
      match Crumb.parse reply.body with
      | .ok crumb => .issued crumb
      | .error _ => .open
    else .open

/-- The crumb, if one was issued. -/
def crumb? : Knowledge → Option Crumb
  | .issued crumb => some crumb
  | _ => none

end Knowledge

end Crumb

end DashletBoard.BuildServer
