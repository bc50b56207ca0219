/-
Module: DashletBoard.EditForm.Record
Purpose: The JSON form of the edit form and of its updates.
Main exports: EditForm.toJson, FormUpdate.ofDraft
-/
import DashletBoard.EditForm
import DashletBoard.Json.Record

namespace DashletBoard

/-- The JSON form of the edit form. -/
def EditForm.toJson (form : EditForm) : Json :=
  .object [("measureGroup", .string form.measureGroup), ("measure", .optional form.measure),
    ("customName", .string form.customName),
    ("customBuildCount", .string form.customBuildCount),
    ("aggregation", .string form.aggregation)]

namespace FormUpdate

/-- The fields of an update.  An object may leave out any of them; a list gives all five. -/
def shape : Shape :=
  [⟨"measureGroup", .optionalText, true, false⟩, ⟨"measure", .optionalText, true, false⟩,
    ⟨"customName", .optionalText, true, false⟩,
    ⟨"customBuildCount", .optionalText, true, false⟩,
    ⟨"aggregation", .optionalText, true, false⟩]

/-- The update of the fields that were read. -/
def ofFields (fields : Fields) : FormUpdate where
  measureGroup := fields.text? "measureGroup"
  measure := fields.text? "measure"
  customName := fields.text? "customName"
  customBuildCount := fields.text? "customBuildCount"
  aggregation := fields.text? "aggregation"

/-- Reads an update. -/
def ofDraft (draft : Draft) : Except Fault FormUpdate := (shape.read draft).map ofFields

end FormUpdate

end DashletBoard
