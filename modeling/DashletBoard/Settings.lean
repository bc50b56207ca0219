/-
Module: DashletBoard.Settings
Purpose: The settings of the service: built-in defaults, a configuration file and the environment.
Main exports: Scope, Settings, Settings.FileFormat, Settings.ofVariable?, Settings.load?
-/
import DashletBoard.Grid
import DashletBoard.Json.Draft
import DashletBoard.Json.Number
import DashletBoard.Number.FloatText
import DashletBoard.Number.Shortest
import DashletBoard.Settings.Toml.Document
import DashletBoard.Text.Pieces

namespace DashletBoard

/-- What the tabs are for the build server: dashboards or test cases. -/
inductive Scope where
  | dashboard
  | testCase
deriving Repr, Inhabited, DecidableEq

/-- The name of a scope, which is also the parameter that names a tab in requests. -/
def Scope.parameter : Scope → String
  | .dashboard => "dashboard"
  | .testCase => "testCase"

/-- Where the build server is, and who asks it. -/
structure BuildServerSettings where
  rootUrl : String
  actionPath : String
  username : Option String := none
  apiToken : Option String := none
deriving Repr, Inhabited, DecidableEq

/-- The settings of the service. -/
structure Settings where
  listen : String
  buildServer : BuildServerSettings
  geometry : Geometry
  scope : Scope
  tabs : List String
  fragment : Option String
deriving Repr, Inhabited, DecidableEq

/-!
### Reading single settings

A setting is read leniently: a text may be given as a number or truth value, and a word as a text, a
truth value or a number with a fraction.
-/

namespace Setting

/-- Reads a text. -/
def asText? : Setting → Option String
  | .text value => some value
  | .whole value => some (toString value)
  | .flag value => some (if value then "true" else "false")
  | .float value => some value.plainText
  | _ => none

/-- Reads a text that may be nothing. -/
def asOptionalText? : Setting → Option (Option String)
  | .nothing => some none
  | setting => setting.asText?.map some

/-- A natural number as a 32-bit word. -/
def inRange? (n : Nat) : Option UInt32 := if n < UInt32.size then some (UInt32.ofNat n) else none

/-- Reads a word from a text: a truth word of any case, or digits. -/
def wordOfText? (text : String) : Option UInt32 :=
  let lower := String.ofList (text.toList.map Char.toLower)
  if ["true", "on", "yes"].contains lower then some 1
  else if ["false", "off", "no"].contains lower then some 0
  else Text.word? text.toList

/-- Reads a word. -/
def asWord? : Setting → Option UInt32
  | .whole (.ofNat n) => inRange? n
  | .flag value => some (if value then 1 else 0)
  | .float value => value.nearestNatural?.bind inRange?
  | .text value => wordOfText? value
  | _ => none

/-- Reads a list of texts. -/
def asTexts? : Setting → Option (List String)
  | .list items => items.mapM asText?
  | _ => none

/-- The scope of a name. -/
def scopeOfName? (name : String) : Option Scope :=
  if name = Scope.dashboard.parameter then some .dashboard
  else if name = Scope.testCase.parameter then some .testCase
  else none

/-- Reads a scope: its name, or a table whose only entry has its name. -/
def asScope? : Setting → Option Scope
  | .text name => scopeOfName? name
  | .table [(name, _)] => scopeOfName? name
  | _ => none

/-!
### Reading sections

A section is a table.  It may also be the list of its settings in their order; then no optional setting
may be left out of it.
-/

/-- The setting of a name in a section, or of its place if the section is a list. -/
def inSection? (place : Nat) (name : String) : Setting → Option Setting
  | .table entries => entries.lookup name
  | .list items => items[place]?
  | _ => none

/-- Reads an optional text in a section. -/
def optionalInSection? (place : Nat) (name : String) (setting : Setting) :
    Option (Option String) :=
  match setting, setting.inSection? place name with
  | _, some value => value.asOptionalText?
  | .table _, none => some none
  | _, none => none

/-- Reads the section on the build server. -/
def asBuildServer? (setting : Setting) : Option BuildServerSettings := do
  let rootUrl ← (← setting.inSection? 0 "root_url").asText?
  let actionPath ← (← setting.inSection? 1 "action_path").asText?
  let username ← setting.optionalInSection? 2 "username"
  let apiToken ← setting.optionalInSection? 3 "api_token"
  return { rootUrl, actionPath, username, apiToken }

/-- Reads the section on grids. -/
def asGrid? (setting : Setting) : Option Geometry := do
  let columns ← (← setting.inSection? 0 "columns").asWord?
  let origin ← (← setting.inSection? 1 "origin").asWord?
  return { columns, origin }

/-- Reads the tabs in a section; none are listed if the setting is missing. -/
def tabsInSection? (setting : Setting) : Option (List String) :=
  match setting.inSection? 1 "tabs" with
  | some tabs => tabs.asTexts?
  | none => some []

/-- Reads all sections. -/
def asSettings? (setting : Setting) : Option Settings := do
  let server ← setting.inSection? 0 "server"
  let listen ← (← server.inSection? 0 "listen").asText?
  let buildServer ← (← setting.inSection? 1 "jenkins").asBuildServer?
  let geometry ← (← setting.inSection? 2 "grid").asGrid?
  let dashboard ← setting.inSection? 3 "dashboard"
  let scope ← (← dashboard.inSection? 0 "scope").asScope?
  let tabs ← dashboard.tabsInSection?
  let fragment ← dashboard.optionalInSection? 2 "fragment"
  return { listen, buildServer, geometry, scope, tabs, fragment }

end Setting

namespace Settings

/-!
### The configuration file
-/

/-- The formats of a configuration file.  Beside the two that are read here, a format is given by its
reader. -/
inductive FileFormat where
  | json
  | toml
  | other (entries? : String → Option (List (String × Setting)))

/-- The setting of a number in a JSON file. -/
def ofNumber? (n : Numeral) : Option Setting :=
  n.value?.map fun value => match value with
    | .whole value => .whole value
    | .float value => .float value

mutual

/-- The setting of a JSON value; none if a number is out of range. -/
def ofJson? : Json → Option Setting
  | .null => some .nothing
  | .bool value => some (.flag value)
  | .number n => ofNumber? n
  | .string value => some (.text value)
  | .array items => (ofItems? items).map .list
  | .object members => (ofMembers? [] members).map .table

/-- The settings of all items. -/
def ofItems? : List Json → Option (List Setting)
  | [] => some []
  | item :: rest =>
    match ofJson? item, ofItems? rest with
    | some item, some rest => some (item :: rest)
    | _, _ => none

/-- The settings of all members; of two members with one name the last counts. -/
def ofMembers? (held : List (String × Setting)) :
    List (String × Json) → Option (List (String × Setting))
  | [] => some held
  | (name, value) :: rest =>
    match ofJson? value with
    | some value => ofMembers? (Setting.setEntry name value held) rest
    | none => none

end

/-- The greatest depth of arrays and objects in a JSON file. -/
def greatestDepth : Nat := 127

/-- The entries of a JSON file, which must be one object. -/
def ofJsonFile? (text : String) : Option (List (String × Setting)) :=
  let (draft, isAll) := Draft.readWhole text
  if !isAll || greatestDepth < draft.depth then none
  else
    match draft.toJson? with
    | some (.object members) => ofMembers? [] members
    | _ => none

/-- The entries of a configuration file; a byte order mark at its front is passed over. -/
def ofFile? (format : FileFormat) (content : String) : Option (List (String × Setting)) :=
  let text := Text.withoutMark content.toList
  match format with
  | .json => ofJsonFile? (String.ofList text)
  | .toml => Toml.parse? text
  | .other entries? => entries? (String.ofList text)

/-!
### The environment
-/

/-- The lower case of a character in a variable's name.  Beside the letters of ASCII only the Kelvin sign
has a lower case in ASCII, and a name with any other character names no setting. -/
def lowerCase (c : Char) : Char := if c == '\u212a' then 'k' else c.toLower

/-- Replaces two underscores by a point, from the left. -/
def pointUnderscores : List Char → List Char
  | '_' :: '_' :: rest => '.' :: pointUnderscores rest
  | c :: rest => c :: pointUnderscores rest
  | [] => []

/-- What the names of variables begin with, in lower case. -/
def variableStart : List Char := "perfsig__".toList

/-- The key that a variable sets. -/
def variableKey? (name : String) : Option String :=
  (Draft.after? variableStart (name.toList.map lowerCase)).map fun rest =>
    String.ofList (pointUnderscores rest)

/-- The key whose text is a list of tabs. -/
def tabsKey : String := "dashboard.tabs"

/-- The value of a variable: a truth value of any case, a whole number, a floating-point number, the list
of tabs for its key, or the text as it is. -/
def variableValue (key value : String) : Setting :=
  let lower := String.ofList (value.toList.map Char.toLower)
  if lower = "true" then .flag true
  else if lower = "false" then .flag false
  else
    match Text.signed64? value.toList, Binary64.ofText? value.toList with
    | some n, _ => .whole n
    | none, some x => .float x
    | none, none =>
      if key = tabsKey then
        .list ((Text.pieces ',' value.toList).map fun piece => .text (String.ofList piece))
      else .text value

/-- The key and value that a variable of the environment sets, if it is one of the service's. -/
def ofVariable? (named : String × String) : Option (String × Setting) :=
  (variableKey? named.1).map fun key => (key, variableValue key named.2)

/-!
### Layers
-/

/-- The built-in values. -/
def defaults : List (String × Setting) :=
  [("server.listen", .text "0.0.0.0:8080"),
    ("jenkins.root_url", .text "http://localhost:8080/jenkins"),
    ("jenkins.action_path", .text "performance-signature"),
    ("grid.columns", .whole 3), ("grid.origin", .whole 1),
    ("dashboard.scope", .text Scope.dashboard.parameter), ("dashboard.tabs", .list [])]

/-- Lays entries over a configuration one after the other, each at the path of its key.  No order is fixed
for the entries of a file, or for variables: where keys lead into each other, this is the outcome for the
order in which they are listed. -/
def layer (base : Setting) (entries : List (String × Setting)) : Setting :=
  entries.foldl (fun base entry => Setting.assign entry.2 (keyPath entry.1) (some base)) base

/-- What is given: the environment over a file's entries.  The built-in values have no part in it yet, so
an index in a key counts in a list that is given. -/
def given (file : List (String × Setting)) (environment : List (String × String)) :
    List (String × Setting) :=
  Setting.entries (some (layer (layer (.table []) file) (environment.filterMap ofVariable?)))

/-- The settings of a file's entries and an environment: what is given, over the built-in values.  What is
given has one entry for each section, so the order of these does not count. -/
def ofLayers? (file : List (String × Setting)) (environment : List (String × String)) :
    Option Settings :=
  (layer (layer (.table []) defaults) (given file environment)).asSettings?

/-- Loads the settings from an optional configuration file and the environment; none if the file or a
setting cannot be read. -/
def load? (file : Option (FileFormat × String)) (environment : List (String × String)) :
    Option Settings :=
  match file with
  | none => ofLayers? [] environment
  | some (format, content) => (ofFile? format content).bind fun entries => ofLayers? entries environment

end Settings

end DashletBoard
