/-
Module: DashletBoard.Service.Route
Purpose: The calls that the service answers, and the paths that address them.
Main exports: Call, Endpoint, Endpoint.find?, Endpoint.call?, Call.endpoint, Call.path
-/
import DashletBoard.Position
import DashletBoard.Text.Digits
import DashletBoard.Text.Percent
import DashletBoard.Text.Pieces

namespace DashletBoard.Service

/-- A call to the service with the parameters of its path. -/
inductive Call where
  | health
  | listTabs
  | showTab (tab : String)
  | selectTab (tab : String)
  | enterEdit (tab : String)
  | cancelEdit (tab : String)
  | save (tab : String)
  | updateForm (tab : String)
  | addWidget (tab : String)
  | removeWidget (tab : String) (position : Position)
  | moveWidget (tab : String) (position : Position)
  | setShown (tab : String) (position : Position)
  | overview (testCase : String)
deriving Repr, DecidableEq

/-- A kind of call. -/
inductive Endpoint where
  | health
  | listTabs
  | showTab
  | selectTab
  | enterEdit
  | cancelEdit
  | save
  | updateForm
  | addWidget
  | removeWidget
  | moveWidget
  | setShown
  | overview
deriving Repr, Inhabited, DecidableEq

/-- A segment of a path's pattern: a fixed word, or a parameter. -/
inductive Segment where
  | word (text : String)
  | parameter
deriving Repr, DecidableEq

namespace Endpoint

/-- All kinds of calls. -/
def all : List Endpoint :=
  [.health, .listTabs, .showTab, .selectTab, .enterEdit, .cancelEdit, .save, .updateForm, .addWidget,
    .removeWidget, .moveWidget, .setShown, .overview]

/-- The pattern of the path. -/
def pattern : Endpoint → List Segment
  | .health => [.word "healthz"]
  | .listTabs => [.word "tabs"]
  | .showTab => [.word "tabs", .parameter]
  | .selectTab => [.word "tabs", .parameter, .word "select"]
  | .enterEdit => [.word "tabs", .parameter, .word "edit"]
  | .cancelEdit => [.word "tabs", .parameter, .word "cancel"]
  | .save => [.word "tabs", .parameter, .word "save"]
  | .updateForm => [.word "tabs", .parameter, .word "form"]
  | .addWidget => [.word "tabs", .parameter, .word "widgets"]
  | .removeWidget => [.word "tabs", .parameter, .word "widgets", .parameter, .parameter]
  | .moveWidget =>
    [.word "tabs", .parameter, .word "widgets", .parameter, .parameter, .word "move"]
  | .setShown =>
    [.word "tabs", .parameter, .word "widgets", .parameter, .parameter, .word "visibility"]
  | .overview => [.word "overview", .parameter]

/-- The method of the call. -/
def method : Endpoint → String
  | .health | .listTabs | .showTab | .overview => "GET"
  | .updateForm | .setShown => "PUT"
  | .removeWidget => "DELETE"
  | _ => "POST"

/-- Whether a method is allowed: the call's own one, and HEAD beside GET. -/
def allows (endpoint : Endpoint) (method : String) : Bool :=
  method == endpoint.method || (method == "HEAD" && endpoint.method == "GET")

/-- The parameters of a path that fits a pattern, as they are sent.  Only the last parameter of a path
must not be empty. -/
def fit? : List Segment → List (List Char) → Option (List (List Char))
  | [], [] => some []
  | .word text :: others, segment :: rest =>
    if segment = text.toList then fit? others rest else none
  | .parameter :: others, segment :: rest =>
    if segment.isEmpty && others.isEmpty then none else (fit? others rest).map (segment :: ·)
  | _, _ => none

/-- The segments of a path that begins with a slash. -/
def segments? : List Char → Option (List (List Char))
  | '/' :: rest => some (Text.pieces '/' rest)
  | _ => none

/-- The kind of call that a path addresses, with the parameters as they are sent. -/
def find? (path : List Char) : Option (Endpoint × List (List Char)) :=
  match segments? path with
  | none => none
  | some segments =>
    all.findSome? fun endpoint => (fit? endpoint.pattern segments).map fun found => (endpoint, found)

/-- The position of two parameters. -/
def position? (col row : String) : Option Position :=
  match Text.word? col.toList, Text.word? row.toList with
  | some col, some row => some ⟨col, row⟩
  | _, _ => none

/-- The call of decoded parameters. -/
def ofTexts? : Endpoint → List String → Option Call
  | .health, [] => some .health
  | .listTabs, [] => some .listTabs
  | .showTab, [tab] => some (.showTab tab)
  | .selectTab, [tab] => some (.selectTab tab)
  | .enterEdit, [tab] => some (.enterEdit tab)
  | .cancelEdit, [tab] => some (.cancelEdit tab)
  | .save, [tab] => some (.save tab)
  | .updateForm, [tab] => some (.updateForm tab)
  | .addWidget, [tab] => some (.addWidget tab)
  | .removeWidget, [tab, col, row] => (position? col row).map (.removeWidget tab)
  | .moveWidget, [tab, col, row] => (position? col row).map (.moveWidget tab)
  | .setShown, [tab, col, row] => (position? col row).map (.setShown tab)
  | .overview, [testCase] => some (.overview testCase)
  | _, _ => none

/-- Decodes the parameters of a path; none if one of them is no UTF-8 or no number where a number is
needed. -/
def call? (endpoint : Endpoint) (sent : List (List Char)) : Option Call :=
  match sent.mapM Text.Percent.decode? with
  | some texts => endpoint.ofTexts? texts
  | none => none

end Endpoint

/-!
### The path of a call
-/

namespace Call

/-- The kind of a call. -/
def endpoint : Call → Endpoint
  | .health => .health
  | .listTabs => .listTabs
  | .showTab _ => .showTab
  | .selectTab _ => .selectTab
  | .enterEdit _ => .enterEdit
  | .cancelEdit _ => .cancelEdit
  | .save _ => .save
  | .updateForm _ => .updateForm
  | .addWidget _ => .addWidget
  | .removeWidget _ _ => .removeWidget
  | .moveWidget _ _ => .moveWidget
  | .setShown _ _ => .setShown
  | .overview _ => .overview

/-- The parameters of a call, in the order of its path. -/
def parameters : Call → List String
  | .health | .listTabs => []
  | .showTab text | .selectTab text | .enterEdit text | .cancelEdit text | .save text
  | .updateForm text | .addWidget text | .overview text => [text]
  | .removeWidget tab p | .moveWidget tab p | .setShown tab p =>
    [tab, toString p.col.toNat, toString p.row.toNat]

/-- Fills parameters into a pattern, each with every reserved character escaped. -/
def fillIn : List Segment → List String → List Char
  | [], _ => []
  | .word text :: others, parameters => '/' :: text.toList ++ fillIn others parameters
  | .parameter :: others, [] => '/' :: fillIn others []
  | .parameter :: others, parameter :: rest =>
    '/' :: Text.Percent.encode Text.Percent.isUnreserved parameter.toList ++ fillIn others rest

/-- The path that addresses a call. -/
def path (call : Call) : List Char := fillIn call.endpoint.pattern call.parameters

end Call

end DashletBoard.Service
