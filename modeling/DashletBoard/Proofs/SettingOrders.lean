/-
Module: DashletBoard.Proofs.SettingOrders
Purpose: Entries that are applied in any order: if their keys part, they give configurations that are alike
  in every section.
Main exports: Setting.PartWays, Setting.SameSection, Setting.Alike, Setting.alike_assign_assign,
  Settings.KeysPart, Settings.alike_layer_of_perm
-/
import DashletBoard.Proofs.SettingTables

namespace DashletBoard

namespace Setting

/-!
### Key paths that part
-/

/-- Key paths that lead into different sections, or to different names in one section. -/
inductive PartWays : List KeyStep → List KeyStep → Prop where
  | sections {first second : String} (distinct : first ≠ second) (rest others : List KeyStep) :
      PartWays (.entry first :: rest) (.entry second :: others)
  | names {sect first second : String} (distinct : first ≠ second) (rest others : List KeyStep) :
      PartWays (.entry sect :: .entry first :: rest) (.entry sect :: .entry second :: others)

theorem PartWays.symm {path other : List KeyStep} (part : PartWays path other) : PartWays other path := by
  cases part with
  | sections distinct rest others => exact .sections distinct.symm others rest
  | names distinct rest others => exact .names distinct.symm others rest

/-!
### Configurations that are alike

The order of the entries of a section does not count, nor that of the sections.
-/

/-- Sections that are the same but for the order of their entries. -/
inductive SameSection : Option Setting → Option Setting → Prop where
  | same (sect : Option Setting) : SameSection sect sect
  | tables {own other : List (String × Setting)} (each : ∀ name, own.lookup name = other.lookup name) :
      SameSection (some (.table own)) (some (.table other))

/-- Configurations with the same sections. -/
def Alike (first second : Setting) : Prop :=
  ∀ name, SameSection (held? name (some first)) (held? name (some second))

variable {first second third : Option Setting} {base other : Setting} {path otherPath : List KeyStep}

theorem SameSection.trans (same : SameSection first second) (again : SameSection second third) :
    SameSection first third := by
  cases same with
  | same => exact again
  | tables each =>
      cases again with
      | same => exact .tables each
      | tables more => exact .tables fun name => (each name).trans (more name)

theorem lookup_setEntry_congr {own others : List (String × Setting)}
    (each : ∀ name, own.lookup name = others.lookup name) (key : String) (value : Setting) (name : String) :
    (setEntry key value own).lookup name = (setEntry key value others).lookup name := by
  by_cases here : name = key
  · rw [here, lookup_setEntry_self, lookup_setEntry_self]
  · rw [lookup_setEntry_of_ne _ _ here, lookup_setEntry_of_ne _ _ here, each]

theorem lookup_overlayEntries_congr {own others : List (String × Setting)}
    (each : ∀ name, own.lookup name = others.lookup name) (added : List (String × Setting)) (name : String) :
    (overlayEntries own added).lookup name = (overlayEntries others added).lookup name := by
  induction added generalizing own others with
  | nil => exact each name
  | cons entry rest ih =>
      rw [overlayEntries, overlayEntries, each]
      exact ih (lookup_setEntry_congr each _ _)

/-- Sections stay the same when a value is put at a path in both. -/
theorem SameSection.assign (same : SameSection first second) (value : Setting) (path : List KeyStep) :
    SameSection (some (Setting.assign value path first)) (some (Setting.assign value path second)) := by
  cases same with
  | same => exact .same _
  | tables each =>
      match path with
      | [] =>
          cases value with
          | table added => exact .tables (lookup_overlayEntries_congr each added)
          | _ => exact .same _
      | .entry name :: rest =>
          refine .tables fun below => ?_
          rw [entries, entries, each]
          exact lookup_setEntry_congr each _ _ below
      | .item index :: rest => exact .same _

namespace Alike

theorem refl (base : Setting) : Alike base base := fun _ => .same _

theorem trans {last : Setting} (alike : Alike base other) (again : Alike other last) : Alike base last :=
  fun name => (alike name).trans (again name)

/-- Configurations stay alike when a value is put at a path in both. -/
theorem assign (alike : Alike base other) (value : Setting) (start : String) (rest : List KeyStep) :
    Alike (Setting.assign value (.entry start :: rest) (some base))
      (Setting.assign value (.entry start :: rest) (some other)) := by
  intro name
  by_cases here : name = start
  · rw [here, held?_assign_self, held?_assign_self]
    exact (alike start).assign value rest
  · rw [held?_assign_of_ne _ _ _ here, held?_assign_of_ne _ _ _ here]
    exact alike name

end Alike

/-- Values below two names can be put there in either order. -/
theorem held?_assign_assign {start otherStart : String} (distinct : start ≠ otherStart)
    (value otherValue : Setting) (rest others : List KeyStep) (base : Option Setting) (name : String) :
    held? name (some (assign value (.entry start :: rest)
        (some (assign otherValue (.entry otherStart :: others) base)))) =
      held? name (some (assign otherValue (.entry otherStart :: others)
        (some (assign value (.entry start :: rest) base)))) := by
  by_cases here : name = start
  · rw [here, held?_assign_self, held?_assign_of_ne _ _ _ distinct, held?_assign_of_ne _ _ _ distinct,
      held?_assign_self]
  · rw [held?_assign_of_ne _ _ _ here]
    by_cases there : name = otherStart
    · rw [there, held?_assign_self, held?_assign_self, held?_assign_of_ne _ _ _ distinct.symm]
    · rw [held?_assign_of_ne _ _ _ there, held?_assign_of_ne _ _ _ there, held?_assign_of_ne _ _ _ here]

/-- Values at paths that part can be put there in either order. -/
theorem alike_assign_assign (part : PartWays path otherPath) (value otherValue base : Setting) :
    Alike (assign value path (some (assign otherValue otherPath (some base))))
      (assign otherValue otherPath (some (assign value path (some base)))) := by
  intro name
  cases part with
  | sections distinct rest others =>
      rw [held?_assign_assign distinct]
      exact .same _
  | @names start below otherBelow distinct rest others =>
      by_cases here : name = start
      · rw [here, held?_assign_self, held?_assign_self, held?_assign_self, held?_assign_self]
        exact .tables (held?_assign_assign distinct value otherValue rest others _)
      · rw [held?_assign_of_ne _ _ _ here, held?_assign_of_ne _ _ _ here, held?_assign_of_ne _ _ _ here,
          held?_assign_of_ne _ _ _ here]
        exact .same _

end Setting

namespace Settings

open Setting

variable {base other : Setting} {added others : List (String × Setting)}

/-!
### Entries in any order
-/

/-- Entries of which no two have keys that lead to the same setting, or one to a section and the other into
it. -/
def KeysPart (added : List (String × Setting)) : Prop :=
  added.Pairwise fun entry other => PartWays (keyPath entry.1) (keyPath other.1)

theorem KeysPart.perm (part : KeysPart added) (order : added.Perm others) : KeysPart others :=
  (order.pairwise_iff fun part => part.symm).mp part

theorem alike_layer (alike : Alike base other) (added : List (String × Setting)) :
    Alike (layer base added) (layer other added) := by
  induction added generalizing base other with
  | nil => exact alike
  | cons entry rest ih =>
      obtain ⟨start, steps, path, -⟩ := keyPath_eq_cons entry.1
      have first := alike.assign entry.2 start steps
      rw [← path] at first
      exact ih first

/-- Entries whose keys part can be laid over a configuration in any order. -/
theorem alike_layer_of_perm (order : added.Perm others) (part : KeysPart added) (base : Setting) :
    Alike (layer base added) (layer base others) := by
  induction order generalizing base with
  | nil => exact .refl base
  | cons entry _ ih => exact ih (List.pairwise_cons.mp part).2 _
  | swap entry next rest =>
      have apart := (List.pairwise_cons.mp part).1 entry List.mem_cons_self
      exact alike_layer (alike_assign_assign apart.symm _ _ base) rest
  | trans order _ ih ihToo => exact (ih part base).trans (ihToo (part.perm order) base)

end Settings

end DashletBoard
