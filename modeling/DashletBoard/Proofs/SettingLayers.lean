/-
Module: DashletBoard.Proofs.SettingLayers
Purpose: The layers of a configuration, setting by setting: the environment decides over the file, what
  neither of them gives is built in, and a variable more changes the setting that it is for.
Main exports: Settings.NamesLeaves, Settings.SetsEachOnce, Settings.Leaf.inForce?, Settings.ofLayers?_perm,
  Settings.Leaf.IsLeftOut, Settings.Leaf.IsByPlace, Settings.settings_are_layered_one_by_one
-/
import DashletBoard.Proofs.SettingOrders
import DashletBoard.Proofs.SettingPaths

namespace DashletBoard

open Setting

namespace Settings

variable {leaf other : Leaf} {base first second : Setting} {environment : List (String × String)}

/-!
### Variables for single settings
-/

/-- The variables are for single settings, or not the service's. -/
def NamesLeaves (environment : List (String × String)) : Prop :=
  ∀ named ∈ environment, ∀ key, variableKey? named.1 = some key → ∃ leaf : Leaf, key = leaf.key

/-- No two variables are for one setting. -/
def SetsEachOnce (environment : List (String × String)) : Prop :=
  environment.Pairwise fun named other =>
    ∀ key, variableKey? named.1 = some key → variableKey? other.1 ≠ some key

namespace NamesLeaves

variable {file : List (String × Setting)} {before after : List (String × String)} {named : String × String}

theorem isHandledBy (plain : NamesLeaves environment) (leaf : Leaf) : leaf.IsHandledBy environment := by
  intro named member key means
  obtain ⟨other, rfl⟩ := plain named member key means
  by_cases same : other = leaf
  · exact .inl (congrArg Leaf.key same)
  · exact .inr (Leaf.isApart_key same)

theorem isSparedBy (plain : NamesLeaves environment) (unset : ∀ named ∈ environment, ¬ leaf.IsSetBy named) :
    leaf.IsSparedBy environment := by
  intro named member key means
  obtain ⟨other, rfl⟩ := plain named member key means
  exact Leaf.isApart_key fun same => unset named member (same ▸ means)

theorem of_append (plain : NamesLeaves (before ++ after)) : NamesLeaves before ∧ NamesLeaves after :=
  ⟨fun named member => plain named (List.mem_append_left _ member),
    fun named member => plain named (List.mem_append_right _ member)⟩

theorem of_cons (plain : NamesLeaves (named :: after)) : NamesLeaves after :=
  fun other member => plain other (List.mem_cons_of_mem _ member)

theorem partWays_of_ne {leaf other : Leaf} (distinct : leaf ≠ other) :
    PartWays (keyPath leaf.key) (keyPath other.key) := by
  rw [Leaf.keyPath_key, Leaf.keyPath_key]
  by_cases same : leaf.sectionName = other.sectionName
  · rw [same]
    exact .names (Leaf.name_injective.ne distinct) [] []
  · exact .sections same _ _

/-- Variables for different settings can be applied in any order. -/
theorem keysPart (plain : NamesLeaves environment) (once : SetsEachOnce environment) :
    KeysPart (environment.filterMap ofVariable?) := by
  refine List.pairwise_filterMap.mpr (once.imp_of_mem fun {named other} member memberToo apart => ?_)
  intro entry found otherEntry foundToo
  obtain ⟨key, means, rfl⟩ := Option.map_eq_some_iff.mp found
  obtain ⟨otherKey, meansToo, rfl⟩ := Option.map_eq_some_iff.mp foundToo
  obtain ⟨leaf, rfl⟩ := plain named member key means
  obtain ⟨otherLeaf, rfl⟩ := plain other memberToo otherKey meansToo
  exact partWays_of_ne fun same => apart _ means (same ▸ meansToo)

/-- A section that no variable is for stays as it was. -/
theorem sect?_laidOver (plain : NamesLeaves environment)
    (others : ∀ named ∈ environment, ∀ other : Leaf, other.IsSetBy named →
      other.sectionName ≠ leaf.sectionName)
    (base : Setting) : leaf.sect? (laidOver base environment) = leaf.sect? base := by
  refine laidOver_induction (fun held => leaf.sect? held = leaf.sect? base)
    (fun named member key means held same => ?_) rfl
  obtain ⟨other, rfl⟩ := plain named member key means
  rw [Leaf.keyPath_key, Leaf.sect?, held?_assign_of_ne _ _ _ (others named member other means).symm]
  exact same

/-- A section that a variable is for becomes a table. -/
theorem inTable_of_isSetBy (plain : NamesLeaves environment) (member : named ∈ environment)
    (set : other.IsSetBy named) (same : other.sectionName = leaf.sectionName) (base : Setting) :
    leaf.InTable (laidOver base environment) := by
  obtain ⟨before, after, rfl⟩ := List.mem_iff_append.mp member
  have later : NamesLeaves after := plain.of_append.2.of_cons
  rw [laidOver_append, laidOver_cons_of_key set, Leaf.InTable, Leaf.sect?, ← same]
  exact (later.isHandledBy other).inTable_laidOver (Leaf.inTable_assign_key other _ _)

end NamesLeaves

/-!
### What is in force
-/

namespace Leaf

/-- What is in force for a setting when a configuration is laid over the built-in values. -/
def inForce? (leaf : Leaf) (base : Setting) : Option Setting := leaf.effective? (leaf.sect? base)

/-- The section of a setting is a table, if there is one. -/
def IsByName (leaf : Leaf) (base : Setting) : Prop :=
  ∀ form, leaf.sect? base = some form → ∃ own, form = .table own

theorem InTable.isByName (inside : leaf.InTable base) : leaf.IsByName base := by
  obtain ⟨own, found⟩ := inside
  exact fun form present => ⟨own, Option.some.inj (present.symm.trans found)⟩

/-- Where settings have names, the value by its name is in force. -/
theorem IsByName.inForce?_eq (byName : leaf.IsByName base) :
    leaf.inForce? base = some (leaf.chosen (leaf.named? base)) := by
  rw [inForce?, named?]
  cases found : leaf.sect? base with
  | none => rfl
  | some form =>
      obtain ⟨own, rfl⟩ := byName form found
      rfl

/-- The value of the last variable for a setting is in force. -/
theorem IsSetBy.inForce?_laidOver {named : String × String} {after : List (String × String)}
    (set : leaf.IsSetBy named) (base : Setting) (before : List (String × String))
    (spared : leaf.IsSparedBy after) :
    leaf.inForce? (laidOver base (before ++ named :: after)) = some (variableValue leaf.key named.2) := by
  rw [(set.inTable_laidOver base before spared.isHandledBy).isByName.inForce?_eq,
    set.named?_laidOver base before spared, chosen, overlay_variableValue]

theorem sect?_of_sectionName_eq (same : other.sectionName = leaf.sectionName) (base : Setting) :
    other.sect? base = leaf.sect? base := by
  rw [sect?, same, sect?]

/-- Where settings have names, the others of a section are in force as in all that agrees with it. -/
theorem AgreeElsewhere.inForce?_of_isByName (agree : leaf.AgreeElsewhere first second)
    (distinct : other ≠ leaf) (same : other.sectionName = leaf.sectionName) (byName : leaf.IsByName second) :
    other.inForce? second = some (other.chosen (other.named? first)) := by
  have here : other.IsByName second := fun form => sect?_of_sectionName_eq same second ▸ byName form
  rw [here.inForce?_eq, named?, named?, sect?_of_sectionName_eq same, sect?_of_sectionName_eq same,
    agree.names _ (name_injective.ne distinct)]

theorem AgreeElsewhere.inForce?_of_sectionName_ne (agree : leaf.AgreeElsewhere first second)
    (apart : other.sectionName ≠ leaf.sectionName) : other.inForce? first = other.inForce? second := by
  rw [inForce?, inForce?, sect?, sect?, agree.sections _ apart]

/-- What agrees apart from a setting has the same in force for all others, if they have names. -/
theorem AgreeElsewhere.inForce?_eq (agree : leaf.AgreeElsewhere first second) (distinct : other ≠ leaf)
    (byName : leaf.IsByName first) (byNameToo : leaf.IsByName second) :
    other.inForce? first = other.inForce? second := by
  by_cases same : other.sectionName = leaf.sectionName
  · rw [agree.inForce?_of_isByName distinct same byNameToo]
    exact IsByName.inForce?_eq fun form => sect?_of_sectionName_eq same first ▸ byName form
  · exact agree.inForce?_of_sectionName_ne same

/-- What is alike has the same in force for each setting. -/
theorem inForce?_of_alike (alike : Alike first second) (leaf : Leaf) :
    leaf.inForce? first = leaf.inForce? second := by
  have same := alike leaf.sectionName
  change SameSection (leaf.sect? first) (leaf.sect? second) at same
  generalize held : leaf.sect? first = sect at same
  generalize heldToo : leaf.sect? second = other at same
  cases same with
  | same => rw [inForce?, inForce?, held, heldToo]
  | @tables own others each =>
      have byName : leaf.IsByName first := InTable.isByName ⟨own, held⟩
      have byNameToo : leaf.IsByName second := InTable.isByName ⟨others, heldToo⟩
      have named : leaf.named? first = leaf.named? second := by
        rw [named?, named?, held, heldToo]
        exact each leaf.name
      rw [byName.inForce?_eq, byNameToo.inForce?_eq, named]

end Leaf

variable {file otherFile : List (String × Setting)} {settings changed : Settings}

/-- Layers give settings if each setting can be read as it is in force. -/
theorem ofLayers?_eq_some_iff_inForce :
    ofLayers? file environment = some settings ↔
      ∀ leaf : Leaf, (leaf.inForce? (laidOver (filed file) environment)).bind leaf.read? =
        some (leaf.field settings) :=
  ofLayers?_eq_some_iff

theorem ofLayers?_congr
    (same : ∀ leaf : Leaf, leaf.inForce? (laidOver (filed file) environment) =
      leaf.inForce? (laidOver (filed otherFile) environment)) :
    ofLayers? file environment = ofLayers? otherFile environment := by
  apply Option.ext
  intro settings
  simp only [ofLayers?_eq_some_iff_inForce, same]

/-- The order in which the entries of a file and the variables are applied does not count, if the keys of
the file part and no two variables are for one setting. -/
theorem ofLayers?_perm {entries : List (String × Setting)} {reordered : List (String × String)}
    (part : KeysPart file) (plain : NamesLeaves environment) (once : SetsEachOnce environment)
    (order : entries.Perm file) (orderToo : reordered.Perm environment) :
    ofLayers? entries reordered = ofLayers? file environment := by
  have filedAlike : Alike (filed entries) (filed file) :=
    alike_layer_of_perm order (part.perm order.symm) (.table [])
  have added := orderToo.filterMap ofVariable?
  have laidAlike : Alike (laidOver (filed entries) reordered) (laidOver (filed file) environment) :=
    (alike_layer filedAlike _).trans
      (alike_layer_of_perm added ((plain.keysPart once).perm added.symm) (filed file))
  apply Option.ext
  intro settings
  simp only [ofLayers?_eq_some_iff_inForce, Leaf.inForce?_of_alike laidAlike]

/-- Of a section and a key that leads into it, the one that is applied last counts. -/
example :
    let columns := ("grid.columns", Setting.whole 5)
    let grid := ("grid", Setting.table [("columns", .whole 7)])
    (ofLayers? [columns, grid] []).map Settings.geometry = some ⟨7, 1⟩ ∧
      (ofLayers? [grid, columns] []).map Settings.geometry = some ⟨5, 1⟩ := by
  decide +kernel

/-- A section from which settings are read is a table or a list. -/
theorem exists_list_of_not_isByName (loads : ofLayers? file environment = some settings)
    (unnamed : ¬ leaf.IsByName (laidOver (filed file) environment)) :
    ∃ items, leaf.sect? (laidOver (filed file) environment) = some (.list items) := by
  have read := ofLayers?_eq_some_iff_inForce.mp loads leaf
  rw [Leaf.inForce?] at read
  rw [Leaf.IsByName] at unnamed
  cases found : leaf.sect? (laidOver (filed file) environment) with
  | none => exact absurd (fun form present => nomatch found.symm.trans present) unnamed
  | some form =>
      rw [found] at read
      cases form with
      | list items => exact ⟨items, rfl⟩
      | table own =>
          exact absurd (fun form present => ⟨own, Option.some.inj (present.symm.trans found)⟩) unnamed
      | _ => cases read

/-!
### Setting by setting
-/

namespace Leaf

/-- A setting has no value by its name, and none at its place if its section is a list. -/
structure IsLeftOut (leaf : Leaf) (base : Setting) : Prop where
  named : leaf.named? base = none
  listed : ∀ items, leaf.sect? base = some (.list items) → items.length ≤ leaf.place

/-- The settings of a section have values by their places: the section is a list, which no variable of an
environment turns into a table. -/
structure IsByPlace (leaf : Leaf) (base : Setting) (environment : List (String × String)) : Prop where
  isList : ∃ items, leaf.sect? base = some (.list items)
  unset : ∀ named ∈ environment, ∀ other : Leaf, other.IsSetBy named → other.sectionName ≠ leaf.sectionName

theorem exists_last_setter (set : ∃ named ∈ environment, leaf.IsSetBy named) :
    ∃ before named after, environment = before ++ named :: after ∧ leaf.IsSetBy named ∧
      ∀ later ∈ after, ¬ leaf.IsSetBy later := by
  induction environment with
  | nil => exact nomatch set
  | cons first rest ih =>
      by_cases later : ∃ named ∈ rest, leaf.IsSetBy named
      · obtain ⟨before, named, after, rfl, here, last⟩ := ih later
        exact ⟨first :: before, named, after, rfl, here, last⟩
      · obtain ⟨named, member, here⟩ := set
        rcases List.mem_cons.mp member with rfl | among
        · exact ⟨[], named, rest, rfl, here, fun other among again => later ⟨other, among, again⟩⟩
        · exact absurd ⟨named, among, here⟩ later

end Leaf

/-- Where a section is a list in the end, the file gave it as that list. -/
theorem NamesLeaves.isByPlace_iff (plain : NamesLeaves environment) (leaf : Leaf) (base : Setting) :
    leaf.IsByPlace base environment ↔
      ∃ items, leaf.sect? (laidOver base environment) = some (.list items) := by
  constructor
  · rintro ⟨⟨items, found⟩, unset⟩
    exact ⟨items, (plain.sect?_laidOver unset base).trans found⟩
  · rintro ⟨items, found⟩
    have unset : ∀ named ∈ environment, ∀ other : Leaf, other.IsSetBy named →
        other.sectionName ≠ leaf.sectionName := by
      intro named member other set same
      obtain ⟨own, table⟩ := plain.inTable_of_isSetBy member set same base
      exact nomatch table.symm.trans found
    exact ⟨⟨items, (plain.sect?_laidOver unset base).symm.trans found⟩, unset⟩

/-- The environment decides: files that differ in nothing but a setting that it sets give the same. -/
theorem ofLayers?_eq_of_isSetBy (plain : NamesLeaves environment)
    (set : ∃ named ∈ environment, leaf.IsSetBy named)
    (agree : leaf.AgreeElsewhere (filed file) (filed otherFile)) :
    ofLayers? file environment = ofLayers? otherFile environment := by
  obtain ⟨before, named, after, rfl, set, last⟩ := Leaf.exists_last_setter set
  have spared := plain.of_append.2.of_cons.isSparedBy last
  have byName (base : Setting) : leaf.IsByName (laidOver base (before ++ named :: after)) :=
    (set.inTable_laidOver base before spared.isHandledBy).isByName
  refine ofLayers?_congr fun other => ?_
  by_cases same : other = leaf
  · rw [same, set.inForce?_laidOver _ before spared, set.inForce?_laidOver _ before spared]
  · exact ((plain.isHandledBy leaf).agreeElsewhere_laidOver agree).inForce?_eq same (byName _) (byName _)

/-- What the variable for a setting says is what the setting is. -/
theorem read?_eq_field (plain : NamesLeaves environment) (once : SetsEachOnce environment)
    {named : String × String} (member : named ∈ environment) (set : leaf.IsSetBy named)
    (loads : ofLayers? file environment = some settings) :
    leaf.read? (variableValue leaf.key named.2) = some (leaf.field settings) := by
  obtain ⟨before, after, rfl⟩ := List.mem_iff_append.mp member
  have last (later : String × String) (among : later ∈ after) : ¬ leaf.IsSetBy later :=
    (List.pairwise_cons.mp (List.pairwise_append.mp once).2.1).1 later among _ set
  have read := ofLayers?_eq_some_iff_inForce.mp loads leaf
  rwa [set.inForce?_laidOver _ _ (plain.of_append.2.of_cons.isSparedBy last), Option.bind_some] at read

/-- What is left out by the file and the environment is built in. -/
theorem field_eq_builtIn (plain : NamesLeaves environment)
    (unset : ∀ named ∈ environment, ¬ leaf.IsSetBy named) (leftOut : leaf.IsLeftOut (filed file))
    (loads : ofLayers? file environment = some settings) : leaf.field settings = leaf.field builtIn := by
  have read := ofLayers?_eq_some_iff_inForce.mp loads leaf
  have unnamed : leaf.named? (laidOver (filed file) environment) = none :=
    ((plain.isSparedBy unset).named?_laidOver _).trans leftOut.named
  suffices value : leaf.inForce? (laidOver (filed file) environment) = some leaf.builtInValue by
    rw [value, Option.bind_some, leaf.read_builtInValue] at read
    exact (Option.some.inj read).symm
  by_cases byName : leaf.IsByName (laidOver (filed file) environment)
  · rw [byName.inForce?_eq, unnamed, Leaf.chosen]
  · -- in a list only the tabs may be missing, and none are built in
    obtain ⟨items, found⟩ := exists_list_of_not_isByName loads byName
    have byPlace := (plain.isByPlace_iff leaf _).mpr ⟨items, found⟩
    have short := leftOut.listed items ((plain.sect?_laidOver byPlace.unset _).symm.trans found)
    have missing : leaf.inForce? (laidOver (filed file) environment) = leaf.absent? (.list items) := by
      rw [Leaf.inForce?, found, Leaf.effective?, List.getElem?_eq_none short]
      rfl
    rw [missing] at read ⊢
    cases leaf with
    | tabs => rfl
    | _ => cases read

/-- A variable more changes the setting that it is for.  Only where it turns a list into a table, the other
settings of the section are built in again. -/
theorem field_of_added {named : String × String} (plain : NamesLeaves environment) (set : leaf.IsSetBy named)
    (loads : ofLayers? file environment = some settings)
    (loadsToo : ofLayers? file (named :: environment) = some changed) (distinct : other ≠ leaf) :
    (¬ (other.sectionName = leaf.sectionName ∧ leaf.IsByPlace (filed file) environment) →
      other.field changed = other.field settings) ∧
    (other.sectionName = leaf.sectionName → leaf.IsByPlace (filed file) environment →
      other.field changed = other.field builtIn) := by
  have read := ofLayers?_eq_some_iff_inForce.mp loads other
  have readToo := ofLayers?_eq_some_iff_inForce.mp loadsToo other
  have handled := plain.isHandledBy leaf
  have agree : leaf.AgreeElsewhere (laidOver (filed file) environment)
      (laidOver (filed file) (named :: environment)) := set.agreeElsewhere_laidOver (filed file) [] handled
  have byNameToo : leaf.IsByName (laidOver (filed file) (named :: environment)) :=
    (set.inTable_laidOver (filed file) [] handled).isByName
  have equal (same : other.inForce? (laidOver (filed file) environment) =
      other.inForce? (laidOver (filed file) (named :: environment))) :
      other.field changed = other.field settings :=
    Option.some.inj (readToo.symm.trans (same ▸ read))
  by_cases byName : leaf.IsByName (laidOver (filed file) environment)
  · refine ⟨fun _ => equal (agree.inForce?_eq distinct byName byNameToo), fun _ byPlace => ?_⟩
    obtain ⟨items, found⟩ := (plain.isByPlace_iff leaf _).mp byPlace
    obtain ⟨own, table⟩ := byName _ found
    exact nomatch table
  · obtain ⟨items, found⟩ := exists_list_of_not_isByName loads byName
    have byPlace := (plain.isByPlace_iff leaf _).mpr ⟨items, found⟩
    refine ⟨fun apart => equal (agree.inForce?_of_sectionName_ne fun same => apart ⟨same, byPlace⟩),
      fun same _ => ?_⟩
    have unnamed : other.named? (laidOver (filed file) environment) = none := by
      rw [Leaf.named?, Leaf.sect?_of_sectionName_eq same, found]
      rfl
    rw [agree.inForce?_of_isByName distinct same byNameToo, unnamed, Leaf.chosen, Option.bind_some,
      other.read_builtInValue] at readToo
    exact (Option.some.inj readToo).symm

theorem NamesLeaves.cons (plain : NamesLeaves environment) {named : String × String}
    (set : leaf.IsSetBy named) : NamesLeaves (named :: environment) :=
  List.forall_mem_cons.mpr ⟨fun _ means => ⟨leaf, Option.some.inj (means.symm.trans set)⟩, plain⟩

theorem SetsEachOnce.cons (once : SetsEachOnce environment) {named : String × String}
    (set : leaf.IsSetBy named) (unset : ∀ other ∈ environment, ¬ leaf.IsSetBy other) :
    SetsEachOnce (named :: environment) := by
  refine List.pairwise_cons.mpr ⟨fun other member key means again => unset other member ?_, once⟩
  exact again.trans (means.symm.trans set)

/-- The entries of a configuration file of any format, whose keys part, and variables for single settings, at
most one for each.  The order in which entries and variables are applied does not count, and variables act
setting by setting.  A setting that the environment sets is what the variable for it says, and does not
depend on the file; one that neither of them gives is built in; and a variable more changes no other
setting, except where it turns a section that the file gives as a list into a table: then the list no longer
counts, and the other settings of the section are built in. -/
theorem settings_are_layered_one_by_one (part : KeysPart file) (plain : NamesLeaves environment)
    (once : SetsEachOnce environment) (leaf : Leaf) :
    (∀ source, fileEntries? source = some file → load? source environment = ofLayers? file environment) ∧
    (∀ entries reordered, entries.Perm file → reordered.Perm environment →
      ofLayers? entries reordered = ofLayers? file environment) ∧
    (∀ named ∈ environment, leaf.IsSetBy named →
      (∀ otherFile entries, KeysPart otherFile → entries.Perm otherFile →
        leaf.AgreeElsewhere (filed file) (filed otherFile) →
          ofLayers? entries environment = ofLayers? file environment) ∧
      ∀ settings, ofLayers? file environment = some settings →
        leaf.read? (variableValue leaf.key named.2) = some (leaf.field settings)) ∧
    (∀ settings, ofLayers? file environment = some settings →
      (∀ named ∈ environment, ¬ leaf.IsSetBy named) → leaf.IsLeftOut (filed file) →
        leaf.field settings = leaf.field builtIn) ∧
    ∀ entries reordered named settings changed, leaf.IsSetBy named →
      (∀ other ∈ environment, ¬ leaf.IsSetBy other) →
      entries.Perm file → reordered.Perm (named :: environment) →
      ofLayers? file environment = some settings → ofLayers? entries reordered = some changed →
        ∀ other, other ≠ leaf →
          (¬ (other.sectionName = leaf.sectionName ∧ leaf.IsByPlace (filed file) environment) →
            other.field changed = other.field settings) ∧
          (other.sectionName = leaf.sectionName → leaf.IsByPlace (filed file) environment →
            other.field changed = other.field builtIn) := by
  refine ⟨fun source read => ?_, fun entries reordered => ofLayers?_perm part plain once,
    fun named member set => ⟨?_, ?_⟩, ?_, ?_⟩
  · rw [load?_eq_bind, read, Option.bind_some]
  · intro otherFile entries partToo order agree
    rw [ofLayers?_perm partToo plain once order (List.Perm.refl environment)]
    exact (ofLayers?_eq_of_isSetBy plain ⟨named, member, set⟩ agree).symm
  · exact fun settings loads => read?_eq_field plain once member set loads
  · exact fun settings loads unset leftOut => field_eq_builtIn plain unset leftOut loads
  · intro entries reordered named settings changed set unset order orderToo loads loadsToo other distinct
    rw [ofLayers?_perm part (plain.cons set) (once.cons set unset) order orderToo] at loadsToo
    exact field_of_added plain set loads loadsToo distinct

/-- With a file on the grid and a variable for its columns: the columns of the file do not count, nothing
is said of a fragment, and the variable leaves the origin as it is. -/
theorem settings_are_layered_one_by_one_grid :
    let source := some (FileFormat.json, "\x7b\"grid\": \x7b\"columns\": 9, \"origin\": 2\x7d\x7d")
    let otherSource := some (FileFormat.json, "\x7b\"grid\": \x7b\"origin\": 2\x7d\x7d")
    let named := ("PERFSIG__GRID__COLUMNS", "4")
    load? source [named] = load? otherSource [named] ∧
      ∃ settings changed, load? source [] = some settings ∧ load? source [named] = some changed ∧
        settings.geometry = ⟨9, 2⟩ ∧ changed.geometry = ⟨4, 2⟩ ∧
        Leaf.fragment.field changed = Leaf.fragment.field builtIn ∧
        Leaf.origin.field changed = Leaf.origin.field settings := by
  intro source otherSource named
  let file := [("grid", Setting.table [("columns", .whole 9), ("origin", .whole 2)])]
  let otherFile := [("grid", Setting.table [("origin", .whole 2)])]
  have read : fileEntries? source = some file := by cbv
  have readOther : fileEntries? otherSource = some otherFile := by cbv
  have tree : filed file = .table file := by cbv
  have otherTree : filed otherFile = .table otherFile := by cbv
  have set : Leaf.columns.IsSetBy named := by decide +kernel
  have before : load? source [] = some { builtIn with geometry := ⟨9, 2⟩ } := by decide +kernel
  have after : load? source [named] = some { builtIn with geometry := ⟨4, 2⟩ } := by decide +kernel
  have plain : NamesLeaves [named] := by
    intro other member key means
    rw [List.mem_singleton.mp member] at means
    exact ⟨.columns, Option.some.inj (means.symm.trans set)⟩
  have nothing : NamesLeaves [] := List.forall_mem_nil _
  have agree : Leaf.columns.AgreeElsewhere (filed file) (filed otherFile) := by
    rw [tree, otherTree]
    refine ⟨fun name apart => ?_, fun name apart => ?_⟩
    · exact (Dictionary.lookup_cons_of_ne _ [] apart).trans (Dictionary.lookup_cons_of_ne _ [] apart).symm
    · exact Dictionary.lookup_cons_of_ne _ _ apart
  have unset : ∀ other ∈ [named], ¬ Leaf.fragment.IsSetBy other := by decide +kernel
  have leftOut : Leaf.fragment.IsLeftOut (filed file) := by
    rw [tree]
    refine ⟨rfl, fun items listed => ?_⟩
    cases listed
  have byName : ¬ Leaf.columns.IsByPlace (filed file) [] := by
    rintro ⟨⟨items, found⟩, -⟩
    rw [tree] at found
    cases found
  have part : KeysPart file := List.pairwise_singleton _ _
  have partToo : KeysPart otherFile := List.pairwise_singleton _ _
  have once : SetsEachOnce [named] := List.pairwise_singleton _ _
  obtain ⟨loadsFile, -, decides, -, -⟩ := settings_are_layered_one_by_one part plain once .columns
  obtain ⟨loadsOther, -⟩ := settings_are_layered_one_by_one partToo plain once .columns
  obtain ⟨-, -, -, builtInLeft, -⟩ := settings_are_layered_one_by_one part plain once .fragment
  obtain ⟨loadsAlone, -, -, -, keepsOthers⟩ :=
    settings_are_layered_one_by_one part nothing List.Pairwise.nil .columns
  have loads := (loadsAlone source read).symm.trans before
  have loadsToo := (loadsFile source read).symm.trans after
  refine ⟨?_, _, _, before, after, rfl, rfl, ?_, ?_⟩
  · have same := (decides named List.mem_cons_self set).1 otherFile otherFile partToo (.refl _) agree
    rw [loadsFile source read, loadsOther otherSource readOther, same]
  · exact builtInLeft _ loadsToo unset leftOut
  · exact (keepsOthers file [named] named _ _ set (List.forall_mem_nil _) (.refl _) (.refl _) loads loadsToo
      .origin (by decide)).1 fun both => byName both.2

/-- A variable for the columns of a grid that a file gives as a list changes the origin, too. -/
theorem variable_changes_listed_section :
    let source := some (FileFormat.json, "\x7b\"grid\": [7, 2]\x7d")
    let named := ("PERFSIG__GRID__COLUMNS", "4")
    Leaf.columns.IsSetBy named ∧ ∃ settings changed, load? source [] = some settings ∧
      load? source [named] = some changed ∧ settings.geometry = ⟨7, 2⟩ ∧ changed.geometry = ⟨4, 1⟩ ∧
      Leaf.origin.field changed ≠ Leaf.origin.field settings := by
  intro source named
  have set : Leaf.columns.IsSetBy named := by decide +kernel
  have before : load? source [] = some { builtIn with geometry := ⟨7, 2⟩ } := by decide +kernel
  have after : load? source [named] = some { builtIn with geometry := ⟨4, 1⟩ } := by decide +kernel
  have differs : (1 : UInt32) ≠ 2 := by decide
  exact ⟨set, _, _, before, after, rfl, rfl, differs⟩

end Settings

end DashletBoard
