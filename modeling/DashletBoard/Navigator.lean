/-
Module: DashletBoard.Navigator
Purpose: The active tab, kept in step with the fragment of the page's URL.
Main exports: Navigator, Navigator.restore, Navigator.select, Navigator.toJson
-/
import DashletBoard.Json.Value

namespace DashletBoard

/-- The tabs, the index of the active one, and the remembered scroll offset. -/
structure Navigator where
  tabs : List String
  activeIndex : Nat
  scrollTop : UInt32
deriving Repr, Inhabited, DecidableEq

namespace Navigator

/-- The tab that a fragment names: the fragment without the number signs at its front. -/
def tabOfFragment (fragment : String) : String :=
  String.ofList (fragment.toList.dropWhile (· == '#'))

/-- The index of a tab in a list. -/
def index? (tabs : List String) (tab : String) : Option Nat := tabs.findIdx? (· == tab)

/-- The navigator of a page that is opened with a fragment.  Without a fragment that names a tab the
first tab is active. -/
def restore (tabs : List String) (fragment : Option String) : Navigator where
  tabs := tabs
  activeIndex := ((fragment.map tabOfFragment).bind (index? tabs)).getD 0
  scrollTop := 0

/-- The active tab; none if there are no tabs. -/
def active? (navigator : Navigator) : Option String := navigator.tabs[navigator.activeIndex]?

/-- The fragment of the active tab. -/
def fragment? (navigator : Navigator) : Option String :=
  navigator.active?.map fun tab => "#" ++ tab

/-- Remembers a scroll offset. -/
def rememberScroll (navigator : Navigator) (scrollTop : UInt32) : Navigator :=
  { navigator with scrollTop := scrollTop }

/-- Makes a tab active; the scroll offset stays.  None if there is no such tab. -/
def select (navigator : Navigator) (tab : String) : Option Navigator :=
  (index? navigator.tabs tab).map fun index => { navigator with activeIndex := index }

/-- The JSON form of a navigator. -/
def toJson (navigator : Navigator) : Json :=
  .object [("tabs", .array (navigator.tabs.map .string)),
    ("active", .optional navigator.active?), ("fragment", .optional navigator.fragment?),
    ("scrollTop", .word navigator.scrollTop)]

end Navigator

end DashletBoard
