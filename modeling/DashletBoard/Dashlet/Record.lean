/-
Module: DashletBoard.Dashlet.Record
Purpose: The JSON record of a widget.
Main exports: Dashlet.toJson, Dashlet.shape, Dashlet.ofDraft, Dashlet.parse, Dashlet.parseList
-/
import DashletBoard.Dashlet
import DashletBoard.Json.Record

namespace DashletBoard.Dashlet

/-- The member of an optional text, left out if there is no text. -/
def optionalMember (name : String) : Option String → List (String × Json)
  | some text => [(name, .string text)]
  | none => []

/-- The record of a widget.  Every field is written, but a description or fragment that is missing is
left out. -/
def toJson (d : Dashlet) : Json :=
  .object <|
    [("dashboard", .string d.dashboard), ("id", .string d.id),
      ("col", .word d.position.col), ("row", .word d.position.row), ("show", .bool d.shown),
      ("chartDashlet", .string d.chartDashlet), ("measure", .string d.measure),
      ("customName", .string d.customName), ("customBuildCount", .string d.customBuildCount),
      ("aggregation", .string d.aggregation)]
    ++ optionalMember "description" d.description ++ optionalMember "html" d.html

/-- The fields of a record.  Dashboard, id, column and row are required. -/
def shape : Shape :=
  [⟨"dashboard", .text, false, false⟩, ⟨"id", .text, false, false⟩,
    ⟨"col", .word, false, false⟩, ⟨"row", .word, false, false⟩,
    ⟨"show", .flag, true, true⟩, ⟨"chartDashlet", .text, true, true⟩,
    ⟨"measure", .text, true, true⟩, ⟨"customName", .text, true, true⟩,
    ⟨"customBuildCount", .text, true, true⟩, ⟨"aggregation", .text, true, true⟩,
    ⟨"description", .optionalText, true, true⟩, ⟨"html", .optionalText, true, true⟩]

/-- The widget of the fields that were read.  A widget is shown unless its record says otherwise. -/
def ofFields (fields : Fields) : Dashlet where
  dashboard := fields.text "dashboard" ""
  id := fields.text "id" ""
  position := ⟨fields.word "col" 0, fields.word "row" 0⟩
  shown := fields.flag "show" true
  chartDashlet := fields.text "chartDashlet" ""
  measure := fields.text "measure" ""
  customName := fields.text "customName" ""
  customBuildCount := fields.text "customBuildCount" ""
  aggregation := fields.text "aggregation" ""
  description := fields.text? "description"
  html := fields.text? "html"

/-- Reads a widget from its record. -/
def ofDraft (draft : Draft) : Except Fault Dashlet := (shape.read draft).map ofFields

/-- Reads a text that is one record. -/
def parse (text : String) : Except Fault Dashlet := Draft.parse ofDraft text

/-- Reads a text that is a list of records. -/
def parseList (text : String) : Except Fault (List Dashlet) :=
  Draft.parse (Draft.readList ofDraft) text

end DashletBoard.Dashlet
