/-
Module: DashletBoard.EditForm
Purpose: The choices made in a tab's edit form, and the widget that they describe.
Main exports: EditForm, EditForm.selectGroup, EditForm.dashlet?, FormUpdate, EditForm.fill
-/
import DashletBoard.Dashlet

namespace DashletBoard

/-- The choices in the edit form. -/
structure EditForm where
  measureGroup : String := ""
  measure : Option String := none
  customName : String := ""
  customBuildCount : String := ""
  aggregation : String := ""
deriving Repr, Inhabited, DecidableEq

namespace EditForm

/-- The group that stands for the chart of unit test results. -/
def overviewGroup : String := "Unit Test Overview"

/-- The form of a tab that has just been loaded. -/
def initial : EditForm := { measureGroup := overviewGroup }

/-- Whether the chart of unit test results is chosen. -/
def isOverview (form : EditForm) : Bool := form.measureGroup == overviewGroup

/-- Chooses another group; everything that belongs to one measure is cleared. -/
def selectGroup (_ : EditForm) (group : String) : EditForm := { measureGroup := group }

/-- The widget that the form describes.  A chart of a measure needs a measure; the chart of unit test
results takes only the custom name and build count from the form. -/
def dashlet? (form : EditForm) (dashboard : String) : Option Dashlet :=
  let named (d : Dashlet) : Dashlet :=
    { d with customName := form.customName, customBuildCount := form.customBuildCount }
  if form.isOverview then some (named (.overview dashboard))
  else
    match form.measure.filter fun measure => !measure.isEmpty with
    | none => none
    | some measure =>
      some (named
        { Dashlet.measurement dashboard form.measureGroup measure with
          aggregation := form.aggregation })

end EditForm

/-- A change of the form; what is absent stays as it is. -/
structure FormUpdate where
  measureGroup : Option String := none
  measure : Option String := none
  customName : Option String := none
  customBuildCount : Option String := none
  aggregation : Option String := none
deriving Repr, Inhabited, DecidableEq

/-- Fills in the plain fields of an update. -/
def EditForm.fill (form : EditForm) (update : FormUpdate) : EditForm :=
  { form with
    customName := update.customName.getD form.customName
    customBuildCount := update.customBuildCount.getD form.customBuildCount
    aggregation := update.aggregation.getD form.aggregation }

end DashletBoard
