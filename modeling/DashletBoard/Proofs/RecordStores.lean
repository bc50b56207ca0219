/-
Module: DashletBoard.Proofs.RecordStores
Purpose: Build servers that hold one list of records, which nothing changes but a save that succeeds.
Main exports: Backend.Stores, Backend.Stores.own_of_saved, Backend.Stores.other_of_saved, Memory,
  Memory.backend, Memory.stores, Tables, Tables.backend, Tables.stores
-/
import DashletBoard.Proofs.TabEffects

namespace DashletBoard

section Stores

variable {σ : Type} {backend : Backend σ} {stored : σ → List Dashlet} {world after : σ}
  {name : String} {records : List Dashlet}

/-- The records that a world holds are answered to every load that succeeds, and a save that succeeds
puts the records of one tab in the place of those that were stored for it.  Any call may fail, and then
it leaves the records as they are. -/
structure Backend.Stores (backend : Backend σ) (stored : σ → List Dashlet) : Prop where
  load_answer : ∀ {name world records}, (backend.load name world).1 = .ok records →
    records = stored world
  load_keeps : ∀ name world, stored (backend.load name world).2 = stored world
  save_replaces : ∀ {name records world}, (backend.save name records world).1 = .ok () →
    stored (backend.save name records world).2 =
      (stored world).filter (fun d => !d.belongsTo name) ++ records
  save_failed : ∀ {name records world failure},
    (backend.save name records world).1 = .error failure →
    stored (backend.save name records world).2 = stored world
  measures_keeps : ∀ name group world, stored (backend.measures name group world).2 = stored world
  aggregation_keeps : ∀ name group measure world,
    stored (backend.aggregation name group measure world).2 = stored world

/-- Records that all belong to a tab are what the tab has of them. -/
theorem filter_belongsTo_of_owned (owned : ∀ d ∈ records, d.dashboard = name) :
    records.filter (·.belongsTo name) = records := by
  apply List.filter_eq_self.mpr
  intro d member
  simp [Dashlet.belongsTo, owned d member]

namespace Backend.Stores

variable (store : backend.Stores stored)
include store

theorem asked (asked : backend.Asked world after) : stored after = stored world := by
  induction asked with
  | nothing => rfl
  | measures _ name group ih => exact (store.measures_keeps name group _).trans ih
  | aggregation _ name group measure ih =>
      exact (store.aggregation_keeps name group measure _).trans ih

theorem saved (answer : backend.save name records world = (.ok (), after)) :
    stored after = (stored world).filter (fun d => !d.belongsTo name) ++ records := by
  have replaced := store.save_replaces (congrArg Prod.fst answer)
  rwa [answer] at replaced

theorem unsaved {failure : Failure}
    (answer : backend.save name records world = (.error failure, after)) :
    stored after = stored world := by
  have kept := store.save_failed (congrArg Prod.fst answer)
  rwa [answer] at kept

/-!
### The records of each tab after a save

Records that are saved for a tab belong to it.  So they are what the tab has afterwards, and other tabs
have what they had.
-/

theorem own_of_saved (answer : backend.save name records world = (.ok (), after))
    (owned : ∀ d ∈ records, d.dashboard = name) :
    (stored after).filter (·.belongsTo name) = records := by
  have dropped : ((stored world).filter fun d => !d.belongsTo name).filter (·.belongsTo name) = [] := by
    apply List.filter_eq_nil_iff.mpr
    intro d kept
    have foreign := (List.mem_filter.mp kept).2
    simp at foreign
    simp [foreign]
  rw [store.saved answer, List.filter_append, dropped, filter_belongsTo_of_owned owned,
    List.nil_append]

theorem foreign_of_saved (answer : backend.save name records world = (.ok (), after))
    (owned : ∀ d ∈ records, d.dashboard = name) :
    ((stored after).filter fun d => !d.belongsTo name) =
      (stored world).filter fun d => !d.belongsTo name := by
  have submitted : (records.filter fun d => !d.belongsTo name) = [] := by
    apply List.filter_eq_nil_iff.mpr
    intro d member
    simp [Dashlet.belongsTo, owned d member]
  rw [store.saved answer, List.filter_append, submitted, List.append_nil, List.filter_filter]
  simp only [Bool.and_self]

theorem other_of_saved {other : String} (answer : backend.save name records world = (.ok (), after))
    (owned : ∀ d ∈ records, d.dashboard = name) (distinct : other ≠ name) :
    (stored after).filter (·.belongsTo other) = (stored world).filter (·.belongsTo other) := by
  have among (list : List Dashlet) : list.filter (·.belongsTo other) =
      (list.filter fun d => !d.belongsTo name).filter (·.belongsTo other) := by
    rw [List.filter_filter]
    apply List.filter_congr
    intro d _
    by_cases here : d.dashboard = other
    · simp [Dashlet.belongsTo, here, distinct]
    · simp [Dashlet.belongsTo, here]
  rw [among (stored after), store.foreign_of_saved answer owned, ← among]

/-- A tab is loaded from the records that are held, or from a failure. -/
theorem loaded {geometry : Geometry} {state : Tab}
    (load : Tab.load? backend geometry name world = some (state, after)) :
    stored after = stored world ∧
      (Tab.ofAnswer? name geometry (.ok (stored world)) = some state ∨
        ∃ failure, Tab.ofAnswer? name geometry (.error failure) = some state) := by
  obtain ⟨made, answered, same⟩ := Option.map_eq_some_iff.mp load
  rcases same with ⟨rfl, rfl⟩
  refine ⟨store.load_keeps name world, ?_⟩
  cases answer : (backend.load name world).1 with
  | ok records =>
      rw [answer, store.load_answer answer] at answered
      exact .inl answered
  | error failure =>
      rw [answer] at answered
      exact .inr ⟨failure, answered⟩

end Backend.Stores

end Stores

/-!
### A store in memory

The store follows a script of failures, one entry for each call to come.  When the script is at its end,
calls succeed.
-/

/-- Records, measures of each group, aggregations of each measure, and the script. -/
structure Memory where
  records : List Dashlet
  measures : Dictionary Measures := .empty
  aggregations : Dictionary String := .empty
  script : List (Option String) := []
deriving DecidableEq

namespace Memory

/-- Answers one call, as far as the script lets it. -/
def call {α : Type} (memory : Memory) (succeed : Memory → α × Memory) :
    Except Failure α × Memory :=
  match memory.script with
  | some cause :: rest => (.error (.of cause), { memory with script := rest })
  | none :: rest =>
      let (answer, after) := succeed { memory with script := rest }
      (.ok answer, after)
  | [] =>
      let (answer, after) := succeed memory
      (.ok answer, after)

/-- The store as a build server. -/
def backend : Backend Memory where
  load _ memory := memory.call fun memory => (memory.records, memory)
  save name records memory := memory.call fun memory =>
    let others := memory.records.filter fun d => !d.belongsTo name
    ((), { memory with records := others ++ records })
  measures _ group memory := memory.call fun memory =>
    ((memory.measures.get? group).getD .empty, memory)
  aggregation _ _ measure memory := memory.call fun memory =>
    ((memory.aggregations.get? measure).getD "", memory)

theorem load_of_script_nil {memory : Memory} (name : String) (ended : memory.script = []) :
    backend.load name memory = (.ok memory.records, memory) := by
  simp only [backend, call, ended]

theorem save_of_script_nil {memory : Memory} (name : String) (records : List Dashlet)
    (ended : memory.script = []) :
    backend.save name records memory = (.ok (), { memory with
      records := (memory.records.filter fun d => !d.belongsTo name) ++ records }) := by
  simp only [backend, call, ended]

theorem stores : backend.Stores Memory.records := by
  constructor
  · intro name memory records answer
    simp only [backend, call] at *
    split at answer
    · cases answer
    · exact (Except.ok.inj answer).symm
    · exact (Except.ok.inj answer).symm
  · intro name memory
    simp only [backend, call]
    split <;> rfl
  · intro name records memory answer
    simp only [backend, call] at *
    split at answer
    · cases answer
    · rfl
    · rfl
  · intro name records memory failure answer
    simp only [backend, call] at *
    split at answer
    · rfl
    · cases answer
    · cases answer
  · intro name group memory
    simp only [backend, call]
    split <;> rfl
  · intro name group measure memory
    simp only [backend, call]
    split <;> rfl

/-- Two records of one tab at a cell, and one of another tab at the same cell. -/
def crowded : Memory where
  records :=
    [{ Dashlet.overview "t1" with position := ⟨1, 1⟩ },
      { Dashlet.overview "t2" with position := ⟨1, 1⟩ },
      { Dashlet.measurement "t1" "Host Health" "cpu" with position := ⟨1, 1⟩ }]

/-- The same records, and a group of two measures, each with an aggregation. -/
def measured : Memory where
  records := crowded.records
  measures := .ofList [("Host Health", .ofList [("cpu", "CPU"), ("mem", "Memory")])]
  aggregations := .ofList [("cpu", "Max"), ("mem", "Avg")]

/-- Three records of one tab, each of which takes the cell of the next one, a fourth one elsewhere, and one
of another tab. -/
def cascade : Memory where
  records :=
    [{ Dashlet.overview "t1" with position := ⟨1, 1⟩ },
      { Dashlet.measurement "t1" "Host Health" "cpu" with position := ⟨1, 1⟩ },
      { Dashlet.overview "t2" with position := ⟨1, 1⟩ },
      { Dashlet.measurement "t1" "Host Health" "mem" with position := ⟨2, 1⟩ },
      { Dashlet.measurement "t1" "Host Health" "gc" with position := ⟨5, 9⟩, shown := false }]

end Memory

/-!
### Stores with fixed tables

Nothing changes in such a store but its records: a table tells for each tab whether it can be loaded and
stored, and for each lookup its answer or its failure.
-/

/-- Failures of each tab, and the answers to lookups. -/
structure Tables where
  loadFailure? : String → Option Failure := fun _ => none
  saveFailure? : String → Option Failure := fun _ => none
  measures : String → String → Except Failure Measures
  aggregation : String → String → String → Except Failure String

namespace Tables

variable (tables : Tables)

/-- The records are the world; all else is read from the tables. -/
def backend : Backend (List Dashlet) where
  load name stored :=
    match tables.loadFailure? name with
    | some failure => (.error failure, stored)
    | none => (.ok stored, stored)
  save name records stored :=
    match tables.saveFailure? name with
    | some failure => (.error failure, stored)
    | none => (.ok (), (stored.filter fun d => !d.belongsTo name) ++ records)
  measures name group stored := (tables.measures name group, stored)
  aggregation name group measure stored := (tables.aggregation name group measure, stored)

theorem stores : tables.backend.Stores id := by
  constructor
  · intro name stored records answer
    simp only [backend] at answer
    split at answer
    · cases answer
    · exact (Except.ok.inj answer).symm
  · intro name stored
    simp only [backend]
    split <;> rfl
  · intro name records stored answer
    simp only [backend] at *
    split at answer
    · cases answer
    · rfl
  · intro name records stored failure answer
    simp only [backend] at *
    split at answer
    · rfl
    · cases answer
  · exact fun _ _ _ => rfl
  · exact fun _ _ _ _ => rfl

/-- No record can be stored for one of two tabs, and every group has one measure. -/
def rejecting : Tables where
  saveFailure? name := if name = "t2" then some (.of "rejected") else none
  measures _ _ := .ok (.ofList [("cpu", "CPU")])
  aggregation _ _ _ := .ok "Max"

end Tables

end DashletBoard
