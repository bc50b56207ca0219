/-
Module: DashletBoard.Http.Address
Purpose: Absolute addresses of HTTP servers, in their normal form.
Main exports: Scheme, HostReader, HostReader.ascii, Address, Address.parse?, Address.withPairs,
  Address.sent, Address.text
-/
import DashletBoard.Http.HostNumber
import DashletBoard.Text.Digits
import DashletBoard.Text.Form

namespace DashletBoard.Http

open Text

/-!
### Schemes
-/

/-- The schemes of the addresses to which requests can be sent. -/
inductive Scheme where
  | http
  | https
deriving Repr, DecidableEq

namespace Scheme

/-- The name of a scheme. -/
def name : Scheme → String
  | .http => "http"
  | .https => "https"

/-- The standard port of a scheme. -/
def port : Scheme → Nat
  | .http => 80
  | .https => 443

/-- The scheme of a name, which may be in any case. -/
def ofName? (name : List Char) : Option Scheme :=
  match String.ofList (name.map Char.toLower) with
  | "http" => some .http
  | "https" => some .https
  | _ => none

end Scheme

/-!
### Hosts

A host can be named in any script, with or without escapes, or be a number in one of many forms.  Its normal
form takes the tables of the standard on internationalised names, so a reader of hosts is given from outside.
-/

/-- The characters that a host in its normal form may have. -/
def isHostChar (c : Char) : Bool :=
  32 < c.toNat && c.toNat < 127 && !"#%/<>?@\\^|".toList.contains c

/-- A way to bring a host into its normal form; none for a text that is no host. -/
structure HostReader where
  read? : List Char → Option (List Char)
  read?_nil : read? [] = none
  isHostChar_of_read? : ∀ {text host : List Char}, read? text = some host →
    ∀ c ∈ host, isHostChar c = true

namespace HostReader

/-- The normal form of a host that is a number, or is named in ASCII. -/
def readAscii? (text : List Char) : Option (List Char) :=
  match text with
  | '[' :: rest =>
    if rest.getLast? == some ']' then
      (HostNumber.long? rest.dropLast).map fun number => '[' :: number ++ [']']
    else none
  | _ =>
    (Percent.decode? text).bind fun name =>
      let name := name.toList.map Char.toLower
      if name.any ":[]".toList.contains then none
      else if HostNumber.endsInNumber name then HostNumber.short? name
      else some name

/-- The reader of hosts in ASCII, which takes no tables. -/
def ascii : HostReader where
  read? text := (readAscii? text).filter fun host => !host.isEmpty && host.all isHostChar
  read?_nil := rfl
  isHostChar_of_read? read := by
    have normal := (Option.filter_eq_some_iff.mp read).2
    rw [Bool.and_eq_true, List.all_eq_true] at normal
    exact normal.2

end HostReader

/-!
### Addresses
-/

/-- An absolute address on an HTTP server, perhaps with a name and a password.  Path, query and fragment
are held as they are written, with their escapes. -/
structure Address where
  scheme : Scheme := .http
  login : Option (String × String) := none
  host : List Char
  port : Nat := scheme.port
  path : List Char
  query : Option (List Char) := none
  fragment : Option (List Char) := none
deriving Repr, DecidableEq

namespace Address

/-!
### What is escaped

A percent sign is never escaped, so text that is escaped already stays as it is.
-/

/-- The characters that a fragment keeps: visible ones of ASCII, but a few. -/
def keptInFragment (c : Char) : Bool :=
  32 < c.toNat && c.toNat < 127 && !(['"', '<', '>', '\x60'].contains c)

/-- The characters that a query keeps. -/
def keptInQuery (c : Char) : Bool :=
  32 < c.toNat && c.toNat < 127 && !(['"', '#', '<', '>', '\''].contains c)

/-- The characters that a path keeps. -/
def keptInPath (c : Char) : Bool :=
  keptInFragment c && !(['#', '?', '^', '\x7b', '\x7d'].contains c)

/-!
### Paths

A backslash divides a path as a slash does.  A segment of one point is left out, and one of two points
takes the segment before it away; points may be written with escapes.
-/

/-- Whether a segment is one point. -/
def isPoint (segment : List Char) : Bool :=
  [".", "%2e"].contains (String.ofList (segment.map Char.toLower))

/-- Whether a segment is two points. -/
def isTwoPoints (segment : List Char) : Bool :=
  ["..", ".%2e", "%2e.", "%2e%2e"].contains (String.ofList (segment.map Char.toLower))

/-- Takes the segments of points out of a path, after some segments in reverse order.  At the end of the
path they leave an empty segment. -/
def resolve : List (List Char) → List (List Char) → List (List Char)
  | before, [] => before.reverse
  | before, [last] =>
    if isTwoPoints last then ([] :: before.tail).reverse
    else if isPoint last then ([] :: before).reverse
    else (last :: before).reverse
  | before, segment :: rest =>
    if isTwoPoints segment then resolve before.tail rest
    else if isPoint segment then resolve before rest
    else resolve (segment :: before) rest

/-- The normal form of a path.  Its first character, if there is one, is a slash. -/
def normalPath (path : List Char) : List Char :=
  let slashed := path.map fun c => if c == '\\' then '/' else c
  let segments := pieces '/' (slashed.drop 1)
  '/' :: joinPieces '/' (resolve [] (segments.map (Percent.encode keptInPath)))

/-!
### Reading addresses
-/

/-- The name and the password in front of a host, if they are not both empty. -/
def login? (text : List Char) : Option (String × String) :=
  let (name, password) := splitAtFirst ':' text
  let password := (Percent.decode? (password.getD [])).getD ""
  match Percent.decode? name with
  | some name => if name.isEmpty && password.isEmpty then none else some (name, password)
  | none => none

/-- The text before the last at sign, if there is one, and the text after it. -/
def splitAtLastAt (text : List Char) : Option (List Char) × List Char :=
  match splitAtFirst '@' text.reverse with
  | (after, some before) => (some before.reverse, after.reverse)
  | (_, none) => (none, text)

/-- Whether a character ends the part of an address that names the server. -/
def endsServer (c : Char) : Bool := c == '/' || c == '\\' || c == '?' || c == '#'

/-- Cuts a host from its port, at the first colon that is not between brackets. -/
def cutPort : Bool → List Char → List Char × List Char
  | _, [] => ([], [])
  | inside, c :: rest =>
    if c == ':' && !inside then ([], c :: rest)
    else
      let (host, port) := cutPort (c == '[' || (inside && c != ']')) rest
      (c :: host, port)

/-- The port after a host; without digits it is the standard one. -/
def port? (standard : Nat) : List Char → Option Nat
  | [] => some standard
  | [':'] => some standard
  | ':' :: digits => (natural? digits).filter (· < UInt16.size)
  | _ => none

/-- The scheme in front of a text's first colon, and the text after it. -/
def afterScheme? (text : List Char) : Option (Scheme × List Char) :=
  match splitAtFirst ':' text with
  | (name, some rest) => (Scheme.ofName? name).map fun scheme => (scheme, rest)
  | (_, none) => none

/-- An address without blanks at its ends and without tabs and line ends. -/
def withoutBlanks (text : List Char) : List Char :=
  let isOuter (c : Char) : Bool := c.toNat ≤ 32
  ((text.dropWhile isOuter).reverse.dropWhile isOuter).reverse.filter fun c =>
    c != '\t' && c != '\n' && c != '\r'

/-- Reads an absolute address.  There is none for another scheme and none without a host. -/
def parse? (hosts : HostReader) (text : List Char) : Option Address :=
  match afterScheme? (withoutBlanks text) with
  | none => none
  | some (scheme, rest) =>
    let rest := rest.dropWhile fun c => c == '/' || c == '\\'
    let (target, fragment) := splitAtFirst '#' (rest.dropWhile fun c => !endsServer c)
    let (path, query) := splitAtFirst '?' target
    let (login, server) := splitAtLastAt (rest.takeWhile fun c => !endsServer c)
    let (host, afterHost) := cutPort false server
    match hosts.read? host, port? scheme.port afterHost with
    | some host, some port =>
      some
        { scheme
          login := login.bind login?
          host, port
          path := normalPath path
          query := query.map (Percent.encode keptInQuery)
          fragment := fragment.map (Percent.encode keptInFragment) }
    | _, _ => none

/-!
### Queries and texts
-/

/-- The address with pairs at the end of its query. -/
def withPairs (pairs : List (String × String)) (address : Address) : Address :=
  { address with
    query := some <| match address.query with
      | some (c :: rest) => (c :: rest) ++ '&' :: Form.encode pairs
      | _ => Form.encode pairs }

/-- What is sent of an address's port: nothing if it is the standard one. -/
def portText (address : Address) : String :=
  if address.port = address.scheme.port then "" else ":" ++ toString address.port

/-- The address as it is sent: without its fragment, and without the standard port. -/
def sent (address : Address) : String :=
  let query := match address.query with
    | some query => '?' :: query
    | none => []
  address.scheme.name ++ "://" ++ String.ofList address.host ++ address.portText
    ++ String.ofList (address.path ++ query)

/-- The whole text of an address. -/
def text (address : Address) : String :=
  match address.fragment with
  | some fragment => address.sent ++ "#" ++ String.ofList fragment
  | none => address.sent

end Address

end DashletBoard.Http
