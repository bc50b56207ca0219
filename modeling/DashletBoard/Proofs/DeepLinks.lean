/-
Module: DashletBoard.Proofs.DeepLinks
Purpose: Which tab is active in a navigator, and which one a page finds again that is opened with the
  fragment of a selected tab.
Main exports: Navigator.index?_isSome_iff, Navigator.active?_of_index?, Navigator.active?_restore,
  Navigator.tabOfFragment_eq_self_iff, Navigator.selected_links_restore_iff,
  Navigator.selected_link_restores_another_tab
-/
import DashletBoard.Navigator
import Mathlib.Data.List.TakeWhile

namespace DashletBoard.Navigator

variable {navigator : Navigator} {tabs : List String} {tab fragment : String} {index : Nat}

/-!
### The active tab
-/

theorem index?_isSome_iff : (index? tabs tab).isSome ↔ tab ∈ tabs := by
  simp [index?, List.findIdx?_isSome]

theorem index?_eq_none_iff : index? tabs tab = none ↔ tab ∉ tabs := by
  rw [← index?_isSome_iff, Option.not_isSome_iff_eq_none]

/-- At the index of a tab is this tab, also in a list that has it more than once. -/
theorem getElem?_of_index? (found : index? tabs tab = some index) : tabs[index]? = some tab := by
  obtain ⟨bound, here, -⟩ := List.findIdx?_eq_some_iff_getElem.mp found
  rw [List.getElem?_eq_getElem bound, eq_of_beq here]

theorem lt_length_of_index? (found : index? tabs tab = some index) : index < tabs.length := by
  obtain ⟨bound, -⟩ := List.getElem?_eq_some_iff.mp (getElem?_of_index? found)
  exact bound

theorem active?_of_index? (found : index? navigator.tabs tab = some index) :
    ({ navigator with activeIndex := index } : Navigator).active? = some tab :=
  getElem?_of_index? found

/-- A tab of the navigator can be selected, and it is active then. -/
theorem exists_select (member : tab ∈ navigator.tabs) :
    ∃ selected, navigator.select tab = some selected ∧ selected.tabs = navigator.tabs ∧
      selected.active? = some tab := by
  obtain ⟨index, found⟩ := Option.isSome_iff_exists.mp (index?_isSome_iff.mpr member)
  refine ⟨{ navigator with activeIndex := index }, ?_, rfl, active?_of_index? found⟩
  rw [select, found, Option.map_some]

/-!
### Fragments
-/

theorem tabOfFragment_cons (tab : String) : tabOfFragment ("#" ++ tab) = tabOfFragment tab := by
  have front : ("#" ++ tab).toList = '#' :: tab.toList := by
    rw [String.toList_append]
    rfl
  rw [tabOfFragment, front, List.dropWhile_cons_of_pos rfl, tabOfFragment]

/-- A fragment names itself only if it does not begin with a number sign. -/
theorem tabOfFragment_eq_self_iff : tabOfFragment tab = tab ↔ tab.toList.head? ≠ some '#' := by
  rw [tabOfFragment, ← String.toList_inj, String.toList_ofList, List.dropWhile_eq_self_iff]
  cases tab.toList with
  | nil => simp
  | cons first rest => simp

/-- A page that is opened with a fragment shows the tab that the fragment names, and the first tab if there
is none of this name. -/
theorem active?_restore (tabs : List String) (fragment : String) :
    (restore tabs (some fragment)).active? =
      if tabOfFragment fragment ∈ tabs then some (tabOfFragment fragment) else tabs.head? := by
  rw [active?, restore, Option.map_some, Option.bind_some]
  split
  next member =>
    obtain ⟨index, found⟩ := Option.isSome_iff_exists.mp (index?_isSome_iff.mpr member)
    rw [found, Option.getD_some, getElem?_of_index? found]
  next absent =>
    rw [index?_eq_none_iff.mpr absent, Option.getD_none, List.head?_eq_getElem?]

/-- A tab that is selected gets a fragment, and a page that is opened with this fragment shows the same tab
exactly if one of two things holds: the tab does not begin with a number sign, or it is the first tab and no
tab is named by what is left of it without the number signs at its front. -/
theorem selected_links_restore_iff (navigator : Navigator) {tab : String}
    (member : tab ∈ navigator.tabs) :
    ∃ selected, navigator.select tab = some selected ∧
      selected.active? = some tab ∧ selected.fragment? = some ("#" ++ tab) ∧
      ((restore navigator.tabs selected.fragment?).active? = some tab ↔
        tab.toList.head? ≠ some '#' ∨
          (navigator.tabs.head? = some tab ∧ tabOfFragment tab ∉ navigator.tabs)) := by
  obtain ⟨selected, select, -, active⟩ := exists_select member
  have link : selected.fragment? = some ("#" ++ tab) := by rw [fragment?, active, Option.map_some]
  refine ⟨selected, select, active, link, ?_⟩
  rw [link, active?_restore, tabOfFragment_cons, ← tabOfFragment_eq_self_iff]
  split
  next named =>
    constructor
    · intro same
      exact .inl (Option.some.inj same)
    · rintro (same | ⟨-, unnamed⟩)
      · rw [same]
      · exact absurd named unnamed
  next unnamed =>
    constructor
    · intro first
      exact .inr ⟨first, unnamed⟩
    · rintro (same | ⟨first, -⟩)
      · rw [same] at unnamed
        exact absurd member unnamed
      · exact first

/-- The first tab is found again although it begins with a number sign, as there is no tab of the name without
it. -/
theorem selected_links_restore_iff_first :
    ∃ selected, (restore ["#a", "b"] (some "#b")).select "#a" = some selected ∧
      selected.fragment? = some "##a" ∧
      (restore ["#a", "b"] selected.fragment?).active? = some "#a" := by
  have member : "#a" ∈ (restore ["#a", "b"] (some "#b")).tabs := by decide
  obtain ⟨selected, select, -, link, restores⟩ := selected_links_restore_iff _ member
  exact ⟨selected, select, link, restores.mpr (.inr ⟨rfl, by decide⟩)⟩

/-- Of two tabs that differ by a number sign, the longer one is selected, and its fragment shows the shorter
one. -/
theorem selected_link_restores_another_tab :
    ∃ selected, "#a" ∈ (restore ["a", "#a"] none).tabs ∧
      (restore ["a", "#a"] none).select "#a" = some selected ∧
      selected.active? = some "#a" ∧ selected.fragment? = some "##a" ∧
      (restore ["a", "#a"] selected.fragment?).active? = some "a" := by
  exact ⟨⟨["a", "#a"], 1, 0⟩, by decide, by decide, by decide, by decide, by decide⟩

end DashletBoard.Navigator
