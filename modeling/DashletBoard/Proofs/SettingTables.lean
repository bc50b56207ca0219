/-
Module: DashletBoard.Proofs.SettingTables
Purpose: Tables of settings, told by what stands at each name: after an entry was set, after a table was
  laid over another one, and after a value was put at a key path.
Main exports: Setting.lookup_setEntry_self, Setting.lookup_setEntry_of_ne, Setting.lookup_overlayEntries,
  keyPath_eq_cons, Settings.IsLaid, Settings.isLaid_layer, Settings.layer_of_isLaid
-/
import DashletBoard.Settings
import DashletBoard.Text.Dictionary
import Mathlib.Data.List.Nodup
import Mathlib.Data.List.TakeDrop
import Mathlib.Data.List.TakeWhile

namespace DashletBoard

namespace Setting

variable {name other : String} {value : Setting} {held added : List (String × Setting)}
  {base : Option Setting} {path : List KeyStep}

/-!
### Entries
-/

@[simp] theorem lookup_setEntry_self (name : String) (value : Setting)
    (held : List (String × Setting)) : (setEntry name value held).lookup name = some value := by
  induction held with
  | nil => exact List.lookup_cons_self
  | cons first rest ih =>
      obtain ⟨key, found⟩ := first
      rw [setEntry]
      split
      next => exact List.lookup_cons_self
      next apart => rw [Dictionary.lookup_cons_of_ne found _ (Ne.symm apart), ih]

theorem lookup_setEntry_of_ne (value : Setting) (held : List (String × Setting))
    (distinct : other ≠ name) : (setEntry name value held).lookup other = held.lookup other := by
  induction held with
  | nil => exact Dictionary.lookup_cons_of_ne value [] distinct
  | cons first rest ih =>
      obtain ⟨key, found⟩ := first
      rw [setEntry]
      split
      next same =>
        subst same
        rw [Dictionary.lookup_cons_of_ne value _ distinct, Dictionary.lookup_cons_of_ne found _ distinct]
      next => rw [List.lookup_cons, List.lookup_cons, ih]

theorem mem_setEntry {entry : String × Setting} (member : entry ∈ setEntry name value held) :
    entry = (name, value) ∨ entry ∈ held := by
  induction held with
  | nil => exact .inl (List.mem_singleton.mp member)
  | cons first rest ih =>
      obtain ⟨key, found⟩ := first
      rw [setEntry] at member
      split at member
      next =>
        rcases List.mem_cons.mp member with rfl | later
        · exact .inl rfl
        · exact .inr (List.mem_cons_of_mem _ later)
      next =>
        rcases List.mem_cons.mp member with rfl | later
        · exact .inr List.mem_cons_self
        · exact (ih later).imp_right (List.mem_cons_of_mem _)

theorem mem_names_setEntry (member : other ∈ (setEntry name value held).map Prod.fst) :
    other = name ∨ other ∈ held.map Prod.fst := by
  obtain ⟨entry, among, rfl⟩ := List.mem_map.mp member
  rcases mem_setEntry among with rfl | old
  · exact .inl rfl
  · exact .inr (List.mem_map_of_mem old)

/-- An entry takes the place of the one with its name, so that names stay distinct. -/
theorem nodup_setEntry (distinct : (held.map Prod.fst).Nodup) :
    ((setEntry name value held).map Prod.fst).Nodup := by
  induction held with
  | nil => exact List.nodup_singleton name
  | cons first rest ih =>
      obtain ⟨key, found⟩ := first
      obtain ⟨fresh, others⟩ := List.nodup_cons.mp distinct
      rw [setEntry]
      split
      next same => exact List.nodup_cons.mpr ⟨same ▸ fresh, others⟩
      next apart =>
        refine List.nodup_cons.mpr ⟨fun again => ?_, ih others⟩
        rcases mem_names_setEntry again with same | old
        · exact apart same
        · exact fresh old

theorem lookup_eq_none_of_fresh (fresh : name ∉ held.map Prod.fst) : held.lookup name = none := by
  rw [List.lookup_eq_none_iff]
  intro entry member
  rw [bne_iff_ne]
  rintro rfl
  exact fresh (List.mem_map_of_mem member)

/-!
### One table over another
-/

/-- What is laid over anything but a table counts as it is. -/
theorem overlay_of_entries_eq_nil (bare : entries base = []) (value : Setting) :
    overlay base value = overlay none value := by
  cases value with
  | table added => rw [overlay, overlay, bare]; rfl
  | _ => rfl

/-- Where the table above has an entry, it is laid over the one below; all others are those below. -/
theorem lookup_overlayEntries (held : List (String × Setting)) (distinct : (added.map Prod.fst).Nodup)
    (name : String) :
    (overlayEntries held added).lookup name =
      match added.lookup name with
      | some value => some (overlay (held.lookup name) value)
      | none => held.lookup name := by
  induction added generalizing held with
  | nil => rfl
  | cons first rest ih =>
      obtain ⟨key, value⟩ := first
      obtain ⟨fresh, others⟩ := List.nodup_cons.mp distinct
      rw [overlayEntries, ih _ others]
      by_cases here : name = key
      · subst here
        rw [lookup_eq_none_of_fresh fresh, List.lookup_cons_self]
        exact lookup_setEntry_self _ _ held
      · rw [lookup_setEntry_of_ne _ held here, Dictionary.lookup_cons_of_ne value rest here]

theorem nodup_overlayEntries (distinct : (held.map Prod.fst).Nodup) :
    ((overlayEntries held added).map Prod.fst).Nodup := by
  induction added generalizing held with
  | nil => exact distinct
  | cons first rest ih => exact ih (nodup_setEntry distinct)

/-- Whatever is put into a table, its names stay distinct. -/
theorem nodup_entries_assign (distinct : ((entries base).map Prod.fst).Nodup) :
    ((entries (some (assign value path base))).map Prod.fst).Nodup := by
  cases path with
  | nil =>
      cases value with
      | table added => exact nodup_overlayEntries distinct
      | _ => exact List.nodup_nil
  | cons step rest =>
      cases step with
      | entry name => exact nodup_setEntry distinct
      | item index => exact List.nodup_nil

/-!
### Values below others
-/

/-- The value of a name in a table; anything else has none. -/
def held? (name : String) (setting : Option Setting) : Option Setting := (entries setting).lookup name

/-- A value that is put at a path below a name is put there into what the name has. -/
theorem held?_assign_self (value : Setting) (name : String) (rest : List KeyStep) (base : Option Setting) :
    held? name (some (assign value (.entry name :: rest) base)) =
      some (assign value rest (held? name base)) :=
  lookup_setEntry_self _ _ _

theorem held?_assign_of_ne (value : Setting) (rest : List KeyStep) (base : Option Setting)
    (distinct : other ≠ name) :
    held? other (some (assign value (.entry name :: rest) base)) = held? other base :=
  lookup_setEntry_of_ne _ _ distinct

end Setting

/-!
### Keys
-/

/-- A key leads into a table first, and the name there is a key that stands for itself. -/
theorem keyPath_eq_cons (key : String) :
    ∃ name rest, keyPath key = .entry name :: rest ∧ keyPath name = [.entry name] := by
  simp only [keyPath, List.span_eq_takeWhile_dropWhile]
  split
  next steps inside found =>
    refine ⟨_, steps, rfl, ?_⟩
    -- the name is all of its own characters, so nothing of it is left to be read as steps
    have front : ∀ c ∈ key.toList.takeWhile isKeyChar, isKeyChar c = true := fun c member =>
      List.mem_takeWhile_imp member
    rw [String.toList_ofList, List.takeWhile_eq_self_iff.mpr front, List.dropWhile_eq_nil_iff.mpr front,
      inside]
    rfl
  next path =>
    refine ⟨key, [], rfl, ?_⟩
    split
    next steps inside found => exact absurd found (path steps inside)
    next => rfl

namespace Settings

open Setting

variable {given held : List (String × Setting)} {base : Setting}

/-!
### What layers give
-/

/-- Entries as layers give them: distinct names, which are keys of one step, and distinct names in each
section. -/
structure IsLaid (given : List (String × Setting)) : Prop where
  distinct : (given.map Prod.fst).Nodup
  plain : ∀ name ∈ given.map Prod.fst, keyPath name = [.entry name]
  sections : ∀ entry ∈ given, ((entries (some entry.2)).map Prod.fst).Nodup

theorem isLaid_nil : IsLaid [] :=
  ⟨List.nodup_nil, nofun, nofun⟩

theorem IsLaid.nodup_section (laid : IsLaid given) (name : String) :
    ((entries (given.lookup name)).map Prod.fst).Nodup := by
  cases found : given.lookup name with
  | none => exact List.nodup_nil
  | some value =>
      obtain ⟨before, after, rfl, -⟩ := List.lookup_eq_some_iff.mp found
      exact laid.sections (name, value) (List.mem_append_right _ List.mem_cons_self)

theorem IsLaid.assign {value : Setting} (laid : IsLaid (entries (some base))) (key : String) :
    IsLaid (entries (some (Setting.assign value (keyPath key) (some base)))) := by
  obtain ⟨name, rest, path, plain⟩ := keyPath_eq_cons key
  rw [path]
  refine ⟨nodup_setEntry laid.distinct, fun other member => ?_, fun entry member => ?_⟩
  · rcases mem_names_setEntry member with rfl | old
    · exact plain
    · exact laid.plain other old
  · rcases mem_setEntry member with rfl | old
    · exact nodup_entries_assign (laid.nodup_section name)
    · exact laid.sections entry old

theorem isLaid_layer (laid : IsLaid (entries (some base))) (added : List (String × Setting)) :
    IsLaid (entries (some (layer base added))) := by
  induction added generalizing base with
  | nil => exact laid
  | cons entry rest ih => exact ih (laid.assign entry.1)

/-- Entries that layers gave are laid over a table as a table. -/
theorem layer_of_isLaid (laid : IsLaid given) (held : List (String × Setting)) :
    layer (.table held) given = .table (overlayEntries held given) := by
  induction given generalizing held with
  | nil => rfl
  | cons entry rest ih =>
      obtain ⟨name, value⟩ := entry
      have path : keyPath name = [.entry name] := laid.plain name List.mem_cons_self
      have later : IsLaid rest :=
        ⟨(List.nodup_cons.mp laid.distinct).2,
          fun other member => laid.plain other (List.mem_cons_of_mem _ member),
          fun entry member => laid.sections entry (List.mem_cons_of_mem _ member)⟩
      have first : Setting.assign value (keyPath name) (some (.table held)) =
          .table (setEntry name (overlay (held.lookup name) value) held) := by
        rw [path]
        rfl
      rw [layer, List.foldl_cons, first]
      exact ih later _

end Settings

end DashletBoard
