/-
Module: DashletBoard.Overview
Purpose: The carousel of a project's overview page: the fragments of the widgets that are shown.
Main exports: CarouselItem, resolveFragment, carousel, carouselItems
-/
import DashletBoard.Backend
import DashletBoard.Json.Value
import DashletBoard.Text.Pieces

namespace DashletBoard

/-- One item of the carousel. -/
structure CarouselItem where
  html : String
  active : Bool
deriving Repr, Inhabited, DecidableEq

/-- Fills in a stored fragment: the first `###` becomes the test case, and after that the first `./`
becomes a link below the project's page. -/
def resolveFragment (html testCase : String) : String :=
  String.ofList <|
    Text.replaceFirst "./".toList "performance-signature/".toList <|
      Text.replaceFirst "###".toList testCase.toList html.toList

/-- The fragments on the carousel: those of the records that are shown, unless they are empty. -/
def carouselFragments (records : List Dashlet) : List String :=
  ((records.filter (·.shown)).filterMap (·.html)).filter fun html => !html.isEmpty

/-- The items of the carousel; the first one is active. -/
def carouselItems (records : List Dashlet) (testCase : String) : List CarouselItem :=
  (carouselFragments records).mapIdx fun index html =>
    ⟨resolveFragment html testCase, index == 0⟩

/-- Asks the build server for the records of a test case and makes its carousel. -/
def carousel (backend : Backend σ) (testCase : String) (world : σ) :
    Except Failure (List CarouselItem) × σ :=
  match backend.load testCase world with
  | (.ok records, world) => (.ok (carouselItems records testCase), world)
  | (.error failure, world) => (.error failure, world)

/-- The JSON form of an item. -/
def CarouselItem.toJson (item : CarouselItem) : Json :=
  .object [("html", .string item.html), ("active", .bool item.active)]

end DashletBoard
