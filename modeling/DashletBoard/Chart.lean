/-
Module: DashletBoard.Chart
Purpose: The URLs of a widget's charts, and what a page needs to draw a widget.
Main exports: ChartSize, WidgetKind.chartPath, Dashlet.chartUrl, DashletView, Dashlet.view,
  DashletView.toJson
-/
import DashletBoard.Dashlet
import DashletBoard.Json.Value
import DashletBoard.Text.Percent

namespace DashletBoard

/-- Width and height of a chart in pixels. -/
structure ChartSize where
  width : UInt32
  height : UInt32
deriving Repr, Inhabited, DecidableEq

/-- The size of a chart on a tab. -/
def ChartSize.thumbnail : ChartSize := ⟨410, 300⟩

/-- The size of a chart in the lightbox. -/
def ChartSize.lightbox : ChartSize := ⟨800, 585⟩

/-- The path of the chart of a kind of widgets, relative to the page. -/
def WidgetKind.chartPath : WidgetKind → String
  | .unitTestOverview => "./testRunGraph"
  | .measurement => "./summarizerGraph"

/-- The name of a kind in views. -/
def WidgetKind.name : WidgetKind → String
  | .unitTestOverview => "unitTestOverview"
  | .measurement => "measurement"

namespace Dashlet

/-- The parameters of a chart: size and id always, the others only if they are not empty. -/
def chartParameters (d : Dashlet) (size : ChartSize) : List (String × String) :=
  [("width", toString size.width.toNat), ("height", toString size.height.toNat), ("id", d.id)]
  ++ ([("customName", d.customName), ("customBuildCount", d.customBuildCount),
      ("aggregation", d.aggregation)].filter fun parameter => !parameter.2.isEmpty)

/-- One parameter with its value escaped. -/
def chartParameterText (parameter : String × String) : List Char :=
  parameter.1.toList ++ '=' :: Text.Percent.encode Text.Percent.isUnreserved parameter.2.toList

/-- The URL of a widget's chart, relative to the page. -/
def chartUrl (d : Dashlet) (size : ChartSize) : String :=
  String.ofList <|
    d.kind.chartPath.toList
      ++ '?' :: List.intercalate ['&'] ((d.chartParameters size).map chartParameterText)

/-- The title of a measure's chart names its source and gives its description on a second line. -/
def title? (d : Dashlet) : Option String :=
  match d.kind with
  | .unitTestOverview => none
  | .measurement =>
    some ("source: " ++ d.chartDashlet ++ "-" ++ d.measure ++ "\n" ++ d.description.getD "")

end Dashlet

/-- What a page needs to draw a widget. -/
structure DashletView where
  kind : WidgetKind
  id : String
  position : Position
  shown : Bool
  thumbnailUrl : String
  lightboxUrl : String
  title : Option String
deriving Repr, DecidableEq

/-- The view of a widget. -/
def Dashlet.view (d : Dashlet) : DashletView where
  kind := d.kind
  id := d.id
  position := d.position
  shown := d.shown
  thumbnailUrl := d.chartUrl .thumbnail
  lightboxUrl := d.chartUrl .lightbox
  title := d.title?

/-- The JSON form of a position. -/
def Position.toJson (p : Position) : Json := .object [("col", .word p.col), ("row", .word p.row)]

/-- The JSON form of a view. -/
def DashletView.toJson (view : DashletView) : Json :=
  .object [("kind", .string view.kind.name), ("id", .string view.id),
    ("position", view.position.toJson), ("show", .bool view.shown),
    ("thumbnailUrl", .string view.thumbnailUrl), ("lightboxUrl", .string view.lightboxUrl),
    ("title", .optional view.title)]

end DashletBoard
