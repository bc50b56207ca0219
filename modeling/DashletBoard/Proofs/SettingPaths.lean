/-
Module: DashletBoard.Proofs.SettingPaths
Purpose: Values at the paths of settings: what a variable puts there, what a path past a setting leaves as it
  is, and configurations that agree on all settings but one.
Main exports: Settings.scalar?, Settings.variableValue_eq, Settings.Leaf.IsApart, Settings.Leaf.named?,
  Settings.Leaf.AgreeElsewhere, Settings.laidOver, Settings.Leaf.IsSetBy
-/
import DashletBoard.Proofs.SettingLeaves

namespace DashletBoard

open Setting

namespace Settings

variable {leaf other : Leaf} {base first second value : Setting} {path : List KeyStep}
  {environment : List (String × String)}

/-!
### Values of variables
-/

/-- The truth value or number that a variable's text says, if it says any. -/
def scalar? (text : String) : Option Setting :=
  let lower := String.ofList (text.toList.map Char.toLower)
  if lower = "true" then some (.flag true)
  else if lower = "false" then some (.flag false)
  else
    match Text.signed64? text.toList, Binary64.ofText? text.toList with
    | some n, _ => some (.whole n)
    | none, some x => some (.float x)
    | none, none => none

/-- What a variable's text is for a key if it says no truth value and no number. -/
def wording (key text : String) : Setting :=
  if key = tabsKey then .list ((Text.pieces ',' text.toList).map fun piece => .text (String.ofList piece))
  else .text text

theorem variableValue_eq (key text : String) :
    variableValue key text = (scalar? text).getD (wording key text) := by
  simp only [variableValue, scalar?]
  split
  next => rfl
  next =>
    split
    next => rfl
    next =>
      cases Text.signed64? text.toList with
      | some n => rfl
      | none => cases Binary64.ofText? text.toList <;> rfl

/-- The forms of a value that a text says. -/
inductive IsScalar : Setting → Prop where
  | flag (value : Bool) : IsScalar (.flag value)
  | whole (value : Int) : IsScalar (.whole value)
  | float (value : Binary64) : IsScalar (.float value)

theorem isScalar_of_scalar? {text : String} (found : scalar? text = some value) : IsScalar value := by
  simp only [scalar?] at found
  split at found
  next => exact Option.some.inj found ▸ .flag true
  next =>
    split at found
    next => exact Option.some.inj found ▸ .flag false
    next =>
      split at found
      next n _ => exact Option.some.inj found ▸ .whole n
      next x _ _ => exact Option.some.inj found ▸ .float x
      next => exact nomatch found

/-- A variable has no table as its value, so it replaces what it is laid over. -/
theorem overlay_variableValue (under : Option Setting) (key text : String) :
    overlay under (variableValue key text) = variableValue key text := by
  rw [variableValue_eq]
  cases found : scalar? text with
  | none =>
      rw [Option.getD_none, wording]
      split <;> rfl
  | some value => cases isScalar_of_scalar? found <;> rfl

/-!
### Paths of other settings
-/

namespace Leaf

/-- A path that leads past a setting: into another section, or to another name in its section. -/
inductive IsApart (leaf : Leaf) : List KeyStep → Prop where
  | elsewhere {sectionName : String} (distinct : sectionName ≠ leaf.sectionName) (rest : List KeyStep) :
      IsApart leaf (.entry sectionName :: rest)
  | beside {name : String} (distinct : name ≠ leaf.name) (rest : List KeyStep) :
      IsApart leaf (.entry leaf.sectionName :: .entry name :: rest)

theorem isApart_key (distinct : other ≠ leaf) : leaf.IsApart (keyPath other.key) := by
  rw [keyPath_key]
  by_cases same : other.sectionName = leaf.sectionName
  · rw [same]
    exact .beside (name_injective.ne distinct) []
  · exact .elsewhere same _

/-- What a configuration has as the section of a setting. -/
def sect? (leaf : Leaf) (base : Setting) : Option Setting := held? leaf.sectionName (some base)

/-- The value that a configuration has for a setting by its name. -/
def named? (leaf : Leaf) (base : Setting) : Option Setting := held? leaf.name (leaf.sect? base)

theorem named?_assign_of_isApart (apart : leaf.IsApart path) :
    leaf.named? (assign value path (some base)) = leaf.named? base := by
  cases apart with
  | elsewhere distinct rest => rw [named?, sect?, held?_assign_of_ne _ _ _ distinct.symm, named?, sect?]
  | beside distinct rest =>
      rw [named?, sect?, held?_assign_self, held?_assign_of_ne _ _ _ distinct.symm, named?, sect?]

theorem named?_assign_key (leaf : Leaf) (value base : Setting) :
    leaf.named? (assign value (keyPath leaf.key) (some base)) =
      some (overlay (leaf.named? base) value) := by
  rw [keyPath_key, named?, sect?, held?_assign_self, held?_assign_self, assign, named?, sect?]

/-!
### Agreement apart from one setting
-/

/-- Configurations that have the same sections, and the same values by name in the section of a setting,
apart from the value of the setting.  Where the section is no table, it has no values by name. -/
structure AgreeElsewhere (leaf : Leaf) (first second : Setting) : Prop where
  sections : ∀ name, name ≠ leaf.sectionName → held? name (some first) = held? name (some second)
  names : ∀ name, name ≠ leaf.name → held? name (leaf.sect? first) = held? name (leaf.sect? second)

theorem AgreeElsewhere.assign_of_isApart (agree : leaf.AgreeElsewhere first second)
    (apart : leaf.IsApart path) (value : Setting) :
    leaf.AgreeElsewhere (assign value path (some first)) (assign value path (some second)) := by
  cases apart with
  | @elsewhere sectionName distinct rest =>
      refine ⟨fun name apart => ?_, fun name apart => ?_⟩
      · by_cases here : name = sectionName
        · rw [here, held?_assign_self, held?_assign_self, agree.sections sectionName distinct]
        · rw [held?_assign_of_ne _ _ _ here, held?_assign_of_ne _ _ _ here, agree.sections name apart]
      · rw [sect?, sect?, held?_assign_of_ne _ _ _ distinct.symm, held?_assign_of_ne _ _ _ distinct.symm]
        exact agree.names name apart
  | @beside below distinct rest =>
      refine ⟨fun name apart => ?_, fun name apart => ?_⟩
      · rw [held?_assign_of_ne _ _ _ apart, held?_assign_of_ne _ _ _ apart, agree.sections name apart]
      · rw [sect?, sect?, held?_assign_self, held?_assign_self]
        by_cases here : name = below
        · rw [here, held?_assign_self, held?_assign_self]
          exact congrArg (fun held => some (assign value rest held)) (agree.names below distinct)
        · rw [held?_assign_of_ne _ _ _ here, held?_assign_of_ne _ _ _ here]
          exact agree.names name apart

/-- Whatever is put at the path of the setting itself, the rest is as before. -/
theorem agreeElsewhere_assign_key (leaf : Leaf) (base value : Setting) :
    leaf.AgreeElsewhere base (assign value (keyPath leaf.key) (some base)) := by
  rw [keyPath_key]
  refine ⟨fun name apart => ?_, fun name apart => ?_⟩
  · rw [held?_assign_of_ne _ _ _ apart]
  · rw [sect?, sect?, held?_assign_self, held?_assign_of_ne _ _ _ apart]

theorem AgreeElsewhere.symm (agree : leaf.AgreeElsewhere first second) : leaf.AgreeElsewhere second first :=
  ⟨fun name apart => (agree.sections name apart).symm, fun name apart => (agree.names name apart).symm⟩

theorem AgreeElsewhere.trans {third : Setting} (agree : leaf.AgreeElsewhere first second)
    (later : leaf.AgreeElsewhere second third) : leaf.AgreeElsewhere first third :=
  ⟨fun name apart => (agree.sections name apart).trans (later.sections name apart),
    fun name apart => (agree.names name apart).trans (later.names name apart)⟩

theorem AgreeElsewhere.assign_key (agree : leaf.AgreeElsewhere first second) (value other : Setting) :
    leaf.AgreeElsewhere (assign value (keyPath leaf.key) (some first))
      (assign other (keyPath leaf.key) (some second)) :=
  ((agreeElsewhere_assign_key leaf first value).symm.trans agree).trans
    (agreeElsewhere_assign_key leaf second other)

end Leaf

/-!
### Environments
-/

/-- Lays an environment over a configuration. -/
def laidOver (base : Setting) (environment : List (String × String)) : Setting :=
  layer base (environment.filterMap ofVariable?)

/-- The entries of a configuration file, each at the path of its key. -/
def filed (file : List (String × Setting)) : Setting := layer (.table []) file

theorem laidOver_cons_of_foreign {named : String × String} (foreign : variableKey? named.1 = none)
    (base : Setting) (rest : List (String × String)) :
    laidOver base (named :: rest) = laidOver base rest := by
  rw [laidOver, List.filterMap_cons, ofVariable?, foreign]
  rfl

theorem laidOver_cons_of_key {named : String × String} {key : String}
    (means : variableKey? named.1 = some key) (base : Setting) (rest : List (String × String)) :
    laidOver base (named :: rest) =
      laidOver (assign (variableValue key named.2) (keyPath key) (some base)) rest := by
  rw [laidOver, List.filterMap_cons, ofVariable?, means]
  rfl

theorem laidOver_append (base : Setting) (before after : List (String × String)) :
    laidOver base (before ++ after) = laidOver (laidOver base before) after := by
  rw [laidOver, List.filterMap_append, layer, List.foldl_append]
  rfl

/-- What each variable keeps, the environment keeps. -/
theorem laidOver_induction (holds : Setting → Prop)
    (step : ∀ named ∈ environment, ∀ key, variableKey? named.1 = some key →
      ∀ base, holds base → holds (assign (variableValue key named.2) (keyPath key) (some base)))
    (start : holds base) : holds (laidOver base environment) := by
  induction environment generalizing base with
  | nil => exact start
  | cons named rest ih =>
      have later := fun other member => step other (List.mem_cons_of_mem _ member)
      cases means : variableKey? named.1 with
      | none => exact laidOver_cons_of_foreign means base rest ▸ ih later start
      | some key =>
          rw [laidOver_cons_of_key means]
          exact ih later (step named List.mem_cons_self key means base start)

namespace Leaf

/-- A variable is for a setting if its name means the key of the setting. -/
def IsSetBy (leaf : Leaf) (named : String × String) : Prop := variableKey? named.1 = some leaf.key

instance (leaf : Leaf) : DecidablePred leaf.IsSetBy :=
  fun named => inferInstanceAs (Decidable (variableKey? named.1 = some leaf.key))

/-- Each variable is for a setting, leads past it, or is not the service's. -/
def IsHandledBy (leaf : Leaf) (environment : List (String × String)) : Prop :=
  ∀ named ∈ environment, ∀ key, variableKey? named.1 = some key →
    key = leaf.key ∨ leaf.IsApart (keyPath key)

/-- Each variable leads past a setting, or is not the service's. -/
def IsSparedBy (leaf : Leaf) (environment : List (String × String)) : Prop :=
  ∀ named ∈ environment, ∀ key, variableKey? named.1 = some key → leaf.IsApart (keyPath key)

theorem IsSparedBy.isHandledBy (spared : leaf.IsSparedBy environment) : leaf.IsHandledBy environment :=
  fun named member key means => .inr (spared named member key means)

/-- What a setting has by its name stays through an environment that leads past it. -/
theorem IsSparedBy.named?_laidOver (spared : leaf.IsSparedBy environment) (base : Setting) :
    leaf.named? (laidOver base environment) = leaf.named? base := by
  refine laidOver_induction (fun held => leaf.named? held = _)
    (fun named member key means held same => ?_) rfl
  exact (named?_assign_of_isApart (spared named member key means)).trans same

theorem IsHandledBy.agreeElsewhere_laidOver (handled : leaf.IsHandledBy environment)
    (agree : leaf.AgreeElsewhere first second) :
    leaf.AgreeElsewhere (laidOver first environment) (laidOver second environment) := by
  induction environment generalizing first second with
  | nil => exact agree
  | cons named rest ih =>
      have later : leaf.IsHandledBy rest :=
        fun other member => handled other (List.mem_cons_of_mem _ member)
      cases means : variableKey? named.1 with
      | none =>
          rw [laidOver_cons_of_foreign means, laidOver_cons_of_foreign means]
          exact ih later agree
      | some key =>
          rw [laidOver_cons_of_key means, laidOver_cons_of_key means]
          refine ih later ?_
          rcases handled named List.mem_cons_self key means with rfl | apart
          · exact agree.assign_key _ _
          · exact agree.assign_of_isApart apart _

/-!
### Sections that are tables
-/

/-- The section of a setting is a table. -/
def InTable (leaf : Leaf) (base : Setting) : Prop := ∃ own, leaf.sect? base = some (.table own)

theorem InTable.assign_of_isApart (inside : leaf.InTable base) (apart : leaf.IsApart path)
    (value : Setting) : leaf.InTable (assign value path (some base)) := by
  cases apart with
  | elsewhere distinct rest =>
      rw [InTable, sect?, held?_assign_of_ne _ _ _ distinct.symm]
      exact inside
  | beside distinct rest =>
      rw [InTable, sect?, held?_assign_self]
      exact ⟨_, rfl⟩

theorem inTable_assign_key (leaf : Leaf) (base value : Setting) :
    leaf.InTable (assign value (keyPath leaf.key) (some base)) := by
  rw [InTable, sect?, keyPath_key, held?_assign_self]
  exact ⟨_, rfl⟩

theorem IsHandledBy.inTable_laidOver (handled : leaf.IsHandledBy environment) (inside : leaf.InTable base) :
    leaf.InTable (laidOver base environment) := by
  refine laidOver_induction leaf.InTable (fun named member key means held inside => ?_) inside
  rcases handled named member key means with rfl | apart
  · exact inTable_assign_key leaf held _
  · exact inside.assign_of_isApart apart _

section

variable {named : String × String} (set : leaf.IsSetBy named) (base : Setting)
  (before : List (String × String)) {after : List (String × String)}

include set

/-- A variable for a setting makes its section a table. -/
theorem IsSetBy.inTable_laidOver (handled : leaf.IsHandledBy after) :
    leaf.InTable (laidOver base (before ++ named :: after)) := by
  rw [laidOver_append, laidOver_cons_of_key set]
  exact handled.inTable_laidOver (inTable_assign_key leaf _ _)

/-- The last variable for a setting gives its value. -/
theorem IsSetBy.named?_laidOver (spared : leaf.IsSparedBy after) :
    leaf.named? (laidOver base (before ++ named :: after)) = some (variableValue leaf.key named.2) := by
  rw [laidOver_append, laidOver_cons_of_key set, spared.named?_laidOver, named?_assign_key,
    overlay_variableValue]

/-- A variable more leaves the other settings as they are. -/
theorem IsSetBy.agreeElsewhere_laidOver (handled : leaf.IsHandledBy after) :
    leaf.AgreeElsewhere (laidOver base (before ++ after)) (laidOver base (before ++ named :: after)) := by
  rw [laidOver_append, laidOver_append, laidOver_cons_of_key set]
  exact handled.agreeElsewhere_laidOver (agreeElsewhere_assign_key leaf _ _)

end

end Leaf

end Settings

end DashletBoard
