/-
Module: DashletBoard.Dashlet
Purpose: A widget on a dashboard tab, as it is stored.
Main exports: Dashlet, WidgetKind, Dashlet.kind, Dashlet.overview, Dashlet.measurement,
  canonicalOrder
-/
import DashletBoard.Position

namespace DashletBoard

/-- The two kinds of widgets: the fixed chart of unit test results, and a chart of one measure. -/
inductive WidgetKind where
  | unitTestOverview
  | measurement
deriving Repr, Inhabited, DecidableEq

/-- One widget on a dashboard tab. -/
structure Dashlet where
  dashboard : String
  id : String
  position : Position := ⟨0, 0⟩
  shown : Bool := true
  chartDashlet : String := ""
  measure : String := ""
  customName : String := ""
  customBuildCount : String := ""
  aggregation : String := ""
  description : Option String := none
  html : Option String := none
deriving Repr, Inhabited, DecidableEq

namespace Dashlet

/-- The id of the chart of unit test results. -/
def overviewId : String := "unittest_overview"

/-- The chart of unit test results. -/
def overview (dashboard : String) : Dashlet := { dashboard := dashboard, id := overviewId }

/-- A chart of one measure; the measure is also its id. -/
def measurement (dashboard chartDashlet measure : String) : Dashlet :=
  { dashboard := dashboard, id := measure, chartDashlet := chartDashlet, measure := measure }

/-- The kind of a widget is told by its id. -/
def kind (d : Dashlet) : WidgetKind :=
  if d.id = overviewId then .unitTestOverview else .measurement

/-- Whether a widget is stored for a dashboard tab. -/
def belongsTo (d : Dashlet) (dashboard : String) : Bool := d.dashboard == dashboard

/-- The widget at another position. -/
def moved (d : Dashlet) (position : Position) : Dashlet := { d with position := position }

/-- The widget stored for a dashboard tab. -/
def stamped (d : Dashlet) (dashboard : String) : Dashlet := { d with dashboard := dashboard }

end Dashlet

/-- Widgets in ascending order of their positions; widgets at one position keep their order. -/
def canonicalOrder (dashlets : List Dashlet) : List Dashlet :=
  sortByPosition Dashlet.position dashlets

end DashletBoard
