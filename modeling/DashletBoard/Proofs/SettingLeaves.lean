/-
Module: DashletBoard.Proofs.SettingLeaves
Purpose: The single settings: where each of them stands, what is in force for it when entries are given over
  the built-in values, and that a configuration is read setting by setting.
Main exports: Settings.Leaf, Settings.Leaf.field, Settings.Leaf.effective?, Settings.builtIn,
  Settings.ofLayers?_eq_some_iff, Settings.load?_eq_some_iff, Settings.load?_builtIn
-/
import DashletBoard.Proofs.SettingTables
import Mathlib

namespace DashletBoard

open Setting

namespace Settings

/-- The single settings, each of which stands in a section. -/
inductive Leaf where
  | listen
  | rootUrl
  | actionPath
  | username
  | apiToken
  | columns
  | origin
  | scope
  | tabs
  | fragment
deriving Repr, DecidableEq

/-- The settings when nothing is given. -/
def builtIn : Settings where
  listen := "0.0.0.0:8080"
  buildServer := { rootUrl := "http://localhost:8080/jenkins", actionPath := "performance-signature" }
  geometry := { columns := 3, origin := 1 }
  scope := .dashboard
  tabs := []
  fragment := none

namespace Leaf

variable {leaf other : Leaf} {given : List (String × Setting)}

/-- The name of the section that a setting stands in. -/
def sectionName : Leaf → String
  | .listen => "server"
  | .rootUrl | .actionPath | .username | .apiToken => "jenkins"
  | .columns | .origin => "grid"
  | .scope | .tabs | .fragment => "dashboard"

/-- The name of a setting in its section. -/
def name : Leaf → String
  | .listen => "listen"
  | .rootUrl => "root_url"
  | .actionPath => "action_path"
  | .username => "username"
  | .apiToken => "api_token"
  | .columns => "columns"
  | .origin => "origin"
  | .scope => "scope"
  | .tabs => "tabs"
  | .fragment => "fragment"

/-- The place of a setting in its section, if the section is a list. -/
def place : Leaf → Nat
  | .listen | .rootUrl | .columns | .scope => 0
  | .actionPath | .origin | .tabs => 1
  | .username | .fragment => 2
  | .apiToken => 3

/-- The key of a setting. -/
def key (leaf : Leaf) : String := leaf.sectionName ++ "." ++ leaf.name

theorem keyPath_key (leaf : Leaf) : keyPath leaf.key = [.entry leaf.sectionName, .entry leaf.name] := by
  cases leaf <;> decide

/-- The names tell the settings apart, whatever their sections. -/
theorem name_injective : Function.Injective name := by
  intro leaf other same
  cases leaf <;> cases other <;> first | rfl | exact absurd same (by decide)

/-!
### Reading
-/

/-- The values of a setting. -/
def Value : Leaf → Type
  | .listen | .rootUrl | .actionPath => String
  | .username | .apiToken | .fragment => Option String
  | .columns | .origin => UInt32
  | .scope => Scope
  | .tabs => List String

/-- The value of a setting in a configuration. -/
def field : (leaf : Leaf) → Settings → leaf.Value
  | .listen, settings => settings.listen
  | .rootUrl, settings => settings.buildServer.rootUrl
  | .actionPath, settings => settings.buildServer.actionPath
  | .username, settings => settings.buildServer.username
  | .apiToken, settings => settings.buildServer.apiToken
  | .columns, settings => settings.geometry.columns
  | .origin, settings => settings.geometry.origin
  | .scope, settings => settings.scope
  | .tabs, settings => settings.tabs
  | .fragment, settings => settings.fragment

/-- Reads a setting. -/
def read? : (leaf : Leaf) → Setting → Option leaf.Value
  | .listen | .rootUrl | .actionPath => asText?
  | .username | .apiToken | .fragment => asOptionalText?
  | .columns | .origin => asWord?
  | .scope => asScope?
  | .tabs => asTexts?

/-- What stands for an optional text that its section leaves out.  It may be left out of a table only. -/
def absentText? : Setting → Option Setting
  | .table _ => some .nothing
  | _ => none

/-- What stands for the tabs when their section leaves them out. -/
def absentTabs? : Setting → Option Setting
  | .table _ | .list _ => some (.list [])
  | _ => none

/-- What stands for a setting that its section leaves out. -/
def absent? : Leaf → Setting → Option Setting
  | .username | .apiToken | .fragment => absentText?
  | .tabs => absentTabs?
  | .listen | .rootUrl | .actionPath | .columns | .origin | .scope => fun _ => none

/-- What a section has for a setting. -/
def found? (leaf : Leaf) (sect : Setting) : Option Setting :=
  sect.inSection? leaf.place leaf.name <|> leaf.absent? sect

/-- Reads a setting in its section. -/
def reading? (leaf : Leaf) (sect : Option Setting) : Option leaf.Value :=
  (sect.bind leaf.found?).bind leaf.read?

end Leaf

/-- The settings with given values. -/
def ofFields (value : ∀ leaf : Leaf, leaf.Value) : Settings where
  listen := value .listen
  buildServer := {
    rootUrl := value .rootUrl
    actionPath := value .actionPath
    username := value .username
    apiToken := value .apiToken }
  geometry := { columns := value .columns, origin := value .origin }
  scope := value .scope
  tabs := value .tabs
  fragment := value .fragment

@[simp] theorem field_ofFields (value : ∀ leaf : Leaf, leaf.Value) (leaf : Leaf) :
    leaf.field (ofFields value) = value leaf := by
  cases leaf <;> rfl

end Settings

namespace Setting

open Settings (Leaf)

variable {tables : List (String × Setting)} {settings : Settings}

/-!
### Sections
-/

/-- A setting that must not be left out is what stands by its name or at its place. -/
theorem reading?_required (leaf : Leaf) (required : ∀ sect, leaf.absent? sect = none) (sect : Setting) :
    leaf.reading? (some sect) = (sect.inSection? leaf.place leaf.name).bind leaf.read? := by
  rw [Leaf.reading?, Option.bind_some, Leaf.found?, required, Option.orElse_eq_orElse, Option.orElse_eq_or,
    Option.or_none]

theorem optionalInSection?_eq (place : Nat) (name : String) (sect : Setting) :
    sect.optionalInSection? place name =
      (sect.inSection? place name <|> Leaf.absentText? sect).bind asOptionalText? := by
  unfold optionalInSection?
  cases sect with
  | table entries => cases inSection? place name (.table entries) <;> rfl
  | list items => cases inSection? place name (.list items) <;> rfl
  | _ => rfl

/-- Where there is a scope, the tabs are found or left out. -/
theorem tabsInSection?_of_scope {sect : Setting} {scope : Scope}
    (read : (sect.inSection? 0 "scope").bind asScope? = some scope) :
    sect.tabsInSection? = (sect.inSection? 1 "tabs" <|> Leaf.absentTabs? sect).bind asTexts? := by
  rw [tabsInSection?]
  cases sect with
  | table entries => cases inSection? 1 "tabs" (.table entries) <;> rfl
  | list items => cases inSection? 1 "tabs" (.list items) <;> rfl
  | _ => exact nomatch read

theorem asBuildServer?_eq_some_iff {sect : Setting} {found : BuildServerSettings} :
    sect.asBuildServer? = some found ↔
      (sect.inSection? 0 "root_url").bind asText? = some found.rootUrl ∧
      (sect.inSection? 1 "action_path").bind asText? = some found.actionPath ∧
      sect.optionalInSection? 2 "username" = some found.username ∧
      sect.optionalInSection? 3 "api_token" = some found.apiToken := by
  obtain ⟨_, _, _, _⟩ := found
  rw [asBuildServer?]
  constructor
  · intro read
    simp only [Option.bind_eq_bind, Option.bind_eq_some_iff, Option.pure_def, Option.some.injEq,
      BuildServerSettings.mk.injEq] at read ⊢
    obtain ⟨root, foundRoot, _, readRoot, path, foundPath, _, readPath, _, user, _, token,
      rfl, rfl, rfl, rfl⟩ := read
    exact ⟨⟨root, foundRoot, readRoot⟩, ⟨path, foundPath, readPath⟩, user, token⟩
  · rintro ⟨root, path, user, token⟩
    simp [← Option.bind_assoc, root, path, user, token]

theorem asGrid?_eq_some_iff {sect : Setting} {found : Geometry} :
    sect.asGrid? = some found ↔
      (sect.inSection? 0 "columns").bind asWord? = some found.columns ∧
      (sect.inSection? 1 "origin").bind asWord? = some found.origin := by
  obtain ⟨_, _⟩ := found
  rw [asGrid?]
  constructor
  · intro read
    simp only [Option.bind_eq_bind, Option.bind_eq_some_iff, Option.pure_def, Option.some.injEq,
      Geometry.mk.injEq] at read ⊢
    obtain ⟨columns, foundColumns, _, readColumns, origin, foundOrigin, _, readOrigin, rfl, rfl⟩ := read
    exact ⟨⟨columns, foundColumns, readColumns⟩, ⟨origin, foundOrigin, readOrigin⟩⟩
  · rintro ⟨columns, origin⟩
    simp [← Option.bind_assoc, columns, origin]

theorem asSettings?_eq_some_iff {setting : Setting} {settings : Settings} :
    setting.asSettings? = some settings ↔
      ((setting.inSection? 0 "server").bind (inSection? 0 "listen")).bind asText? = some settings.listen ∧
      (setting.inSection? 1 "jenkins").bind asBuildServer? = some settings.buildServer ∧
      (setting.inSection? 2 "grid").bind asGrid? = some settings.geometry ∧
      ∃ dashboard, setting.inSection? 3 "dashboard" = some dashboard ∧
        (dashboard.inSection? 0 "scope").bind asScope? = some settings.scope ∧
        dashboard.tabsInSection? = some settings.tabs ∧
        dashboard.optionalInSection? 2 "fragment" = some settings.fragment := by
  obtain ⟨_, _, _, _, _, _⟩ := settings
  rw [asSettings?]
  constructor
  · intro read
    simp only [Option.bind_eq_bind, Option.bind_eq_some_iff, Option.pure_def, Option.some.injEq,
      Settings.mk.injEq] at read ⊢
    obtain ⟨server, foundServer, listen, foundListen, _, readListen, jenkins, foundJenkins, _, readJenkins,
      grid, foundGrid, _, readGrid, dashboard, foundDashboard, scope, foundScope, _, readScope, _, readTabs,
      _, readFragment, rfl, rfl, rfl, rfl, rfl, rfl⟩ := read
    exact ⟨⟨listen, ⟨server, foundServer, foundListen⟩, readListen⟩, ⟨jenkins, foundJenkins, readJenkins⟩,
      ⟨grid, foundGrid, readGrid⟩, dashboard, foundDashboard, ⟨scope, foundScope, readScope⟩, readTabs,
      readFragment⟩
  · rintro ⟨listen, buildServer, geometry, dashboard, found, scope, tabs, fragment⟩
    simp [← Option.bind_assoc, listen, buildServer, geometry, found, scope, tabs, fragment]

theorem reading?_of_found {leaf : Leaf} {sect : Option Setting} {present : Setting}
    (found : sect = some present) : leaf.reading? sect = leaf.reading? (some present) := by
  rw [found]

/-- What is read is read from a section. -/
theorem exists_section {leaf : Leaf} {sect : Option Setting} {value : leaf.Value}
    (read : leaf.reading? sect = some value) :
    ∃ present, sect = some present ∧ leaf.reading? (some present) = some value := by
  cases sect with
  | none => exact nomatch read
  | some present => exact ⟨present, rfl, read⟩

/-- A configuration is read setting by setting. -/
theorem asSettings?_table_eq_some_iff :
    (Setting.table tables).asSettings? = some settings ↔
      ∀ leaf : Leaf, leaf.reading? (tables.lookup leaf.sectionName) = some (leaf.field settings) := by
  rw [asSettings?_eq_some_iff]
  constructor
  · rintro ⟨listen, buildServer, geometry, dashboard, found, scope, tabs, fragment⟩ leaf
    obtain ⟨server, foundServer, listen⟩ := Option.bind_eq_some_iff.mp (Option.bind_assoc .. ▸ listen)
    obtain ⟨jenkins, foundJenkins, buildServer⟩ := Option.bind_eq_some_iff.mp buildServer
    obtain ⟨rootUrl, actionPath, username, apiToken⟩ := asBuildServer?_eq_some_iff.mp buildServer
    obtain ⟨grid, foundGrid, geometry⟩ := Option.bind_eq_some_iff.mp geometry
    obtain ⟨columns, origin⟩ := asGrid?_eq_some_iff.mp geometry
    cases leaf with
    | listen =>
        exact (reading?_of_found foundServer).trans
          ((reading?_required .listen (fun _ => rfl) server).trans listen)
    | rootUrl =>
        exact (reading?_of_found foundJenkins).trans
          ((reading?_required .rootUrl (fun _ => rfl) jenkins).trans rootUrl)
    | actionPath =>
        exact (reading?_of_found foundJenkins).trans
          ((reading?_required .actionPath (fun _ => rfl) jenkins).trans actionPath)
    | username =>
        exact (reading?_of_found foundJenkins).trans
          ((optionalInSection?_eq 2 "username" jenkins).symm.trans username)
    | apiToken =>
        exact (reading?_of_found foundJenkins).trans
          ((optionalInSection?_eq 3 "api_token" jenkins).symm.trans apiToken)
    | columns =>
        exact (reading?_of_found foundGrid).trans
          ((reading?_required .columns (fun _ => rfl) grid).trans columns)
    | origin =>
        exact (reading?_of_found foundGrid).trans
          ((reading?_required .origin (fun _ => rfl) grid).trans origin)
    | scope =>
        exact (reading?_of_found found).trans
          ((reading?_required .scope (fun _ => rfl) dashboard).trans scope)
    | tabs => exact (reading?_of_found found).trans ((tabsInSection?_of_scope scope).symm.trans tabs)
    | fragment =>
        exact (reading?_of_found found).trans
          ((optionalInSection?_eq 2 "fragment" dashboard).symm.trans fragment)
  · intro read
    obtain ⟨server, foundServer, listen⟩ := exists_section (read .listen)
    obtain ⟨jenkins, foundJenkins, rootUrl⟩ := exists_section (read .rootUrl)
    obtain ⟨grid, foundGrid, columns⟩ := exists_section (read .columns)
    obtain ⟨dashboard, foundDashboard, scope⟩ := exists_section (read .scope)
    have actionPath := (reading?_of_found foundJenkins).symm.trans (read .actionPath)
    have username := (reading?_of_found foundJenkins).symm.trans (read .username)
    have apiToken := (reading?_of_found foundJenkins).symm.trans (read .apiToken)
    have origin := (reading?_of_found foundGrid).symm.trans (read .origin)
    have tabs := (reading?_of_found foundDashboard).symm.trans (read .tabs)
    have fragment := (reading?_of_found foundDashboard).symm.trans (read .fragment)
    have scope := (reading?_required .scope (fun _ => rfl) dashboard).symm.trans scope
    refine ⟨?_, ?_, ?_, dashboard, foundDashboard, scope, (tabsInSection?_of_scope scope).trans tabs,
      (optionalInSection?_eq 2 "fragment" dashboard).trans fragment⟩
    · rw [Option.bind_assoc]
      exact Option.bind_eq_some_iff.mpr
        ⟨server, foundServer, (reading?_required .listen (fun _ => rfl) server).symm.trans listen⟩
    · exact Option.bind_eq_some_iff.mpr ⟨jenkins, foundJenkins, asBuildServer?_eq_some_iff.mpr
        ⟨(reading?_required .rootUrl (fun _ => rfl) jenkins).symm.trans rootUrl,
          (reading?_required .actionPath (fun _ => rfl) jenkins).symm.trans actionPath,
          (optionalInSection?_eq 2 "username" jenkins).trans username,
          (optionalInSection?_eq 3 "api_token" jenkins).trans apiToken⟩⟩
    · exact Option.bind_eq_some_iff.mpr ⟨grid, foundGrid, asGrid?_eq_some_iff.mpr
        ⟨(reading?_required .columns (fun _ => rfl) grid).symm.trans columns,
          (reading?_required .origin (fun _ => rfl) grid).symm.trans origin⟩⟩

end Setting

namespace Settings

variable {file : List (String × Setting)} {environment : List (String × String)} {settings : Settings}

/-!
### What is in force

Entries are given over the built-in values.  A section that is given as a list takes the place of the
built-in one as a whole, and one that is given as a table is merged with it.
-/

/-- The built-in values, section by section. -/
def builtInSections : List (String × Setting) :=
  [("server", .table [("listen", .text "0.0.0.0:8080")]),
    ("jenkins", .table [("root_url", .text "http://localhost:8080/jenkins"),
      ("action_path", .text "performance-signature")]),
    ("grid", .table [("columns", .whole 3), ("origin", .whole 1)]),
    ("dashboard", .table [("scope", .text Scope.dashboard.parameter), ("tabs", .list [])])]

theorem layer_defaults : layer (.table []) defaults = .table builtInSections := by
  cbv

namespace Leaf

variable {leaf : Leaf} {given : List (String × Setting)}

/-- The built-in value of a setting. -/
def builtInValue (leaf : Leaf) : Setting := (defaults.lookup leaf.key).getD .nothing

/-- What counts for a setting that has a value by its name, or has none. -/
def chosen (leaf : Leaf) : Option Setting → Setting
  | some value => overlay none value
  | none => leaf.builtInValue

/-- What is in force for a setting when its section is given in some form, or not at all. -/
def effective? (leaf : Leaf) : Option Setting → Option Setting
  | none => some (leaf.chosen none)
  | some (.table entries) => some (leaf.chosen (entries.lookup leaf.name))
  | some (.list items) => items[leaf.place]? <|> leaf.absent? (.list items)
  | some _ => none

theorem read_builtInValue (leaf : Leaf) : leaf.read? leaf.builtInValue = some (leaf.field builtIn) := by
  cases leaf <;> cbv

/-- The built-in section has the built-in value, or leaves the setting out for it. -/
theorem exists_builtInSection (leaf : Leaf) :
    ∃ own, builtInSections.lookup leaf.sectionName = some (.table own) ∧
      entries (own.lookup leaf.name) = [] ∧
      (own.lookup leaf.name <|> leaf.absent? (.table own)) = some leaf.builtInValue := by
  cases leaf <;> exact ⟨_, rfl, rfl, rfl⟩

/-- What is left out of one table is left out of every table. -/
theorem absent?_table (leaf : Leaf) (first second : List (String × Setting)) :
    leaf.absent? (.table first) = leaf.absent? (.table second) := by
  cases leaf <;> rfl

/-- In what is given over the built-in values, a setting is found as it is in force. -/
theorem found?_overlay (leaf : Leaf) (laid : IsLaid given) :
    ((overlayEntries builtInSections given).lookup leaf.sectionName).bind leaf.found? =
      leaf.effective? (given.lookup leaf.sectionName) := by
  obtain ⟨own, here, bare, value⟩ := exists_builtInSection leaf
  rw [lookup_overlayEntries builtInSections laid.distinct, here]
  have distinct := laid.nodup_section leaf.sectionName
  cases found : given.lookup leaf.sectionName with
  | none => exact value
  | some above =>
      rw [found] at distinct
      cases above with
      | table added =>
          have named := lookup_overlayEntries own distinct leaf.name
          change ((overlayEntries own added).lookup leaf.name <|> leaf.absent? (.table _)) = _
          rw [entries] at named
          rw [absent?_table leaf _ own, named, effective?]
          cases added.lookup leaf.name with
          | none => exact value
          | some value => exact congrArg some (overlay_of_entries_eq_nil bare value)
      | list items => rfl
      | _ => cases leaf <;> rfl

end Leaf

theorem isLaid_given (file : List (String × Setting)) (environment : List (String × String)) :
    IsLaid (given file environment) := by
  have empty : IsLaid (entries (some (.table []))) := isLaid_nil
  exact isLaid_layer (isLaid_layer empty file) _

/-- Layers give settings if each setting can be read as it is in force. -/
theorem ofLayers?_eq_some_iff :
    ofLayers? file environment = some settings ↔
      ∀ leaf : Leaf, (leaf.effective? ((given file environment).lookup leaf.sectionName)).bind leaf.read? =
        some (leaf.field settings) := by
  have laid := isLaid_given file environment
  rw [ofLayers?, layer_defaults, layer_of_isLaid laid, asSettings?_table_eq_some_iff]
  exact forall_congr' fun leaf => by rw [Leaf.reading?, leaf.found?_overlay laid]

theorem isSome_ofLayers?_iff :
    (ofLayers? file environment).isSome ↔
      ∀ leaf : Leaf, ((leaf.effective? ((given file environment).lookup leaf.sectionName)).bind
        leaf.read?).isSome := by
  simp only [Option.isSome_iff_exists, ofLayers?_eq_some_iff]
  constructor
  · rintro ⟨settings, read⟩ leaf
    exact ⟨_, read leaf⟩
  · intro read
    choose value read using read
    exact ⟨ofFields value, fun leaf => by rw [field_ofFields, read]⟩

/-!
### Files
-/

/-- The entries of an optional configuration file. -/
def fileEntries? : Option (FileFormat × String) → Option (List (String × Setting))
  | none => some []
  | some (format, content) => ofFile? format content

theorem load?_eq_bind (file : Option (FileFormat × String)) (environment : List (String × String)) :
    load? file environment = (fileEntries? file).bind fun entries => ofLayers? entries environment := by
  cases file <;> rfl

/-- Without a file and an environment the built-in settings are loaded. -/
theorem load?_builtIn : load? none [] = some builtIn := by
  refine ofLayers?_eq_some_iff.mpr fun leaf => ?_
  exact leaf.read_builtInValue

end Settings

end DashletBoard
