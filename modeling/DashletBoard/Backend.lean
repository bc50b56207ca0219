/-
Module: DashletBoard.Backend
Purpose: What the dashboards need from the build server: stored records, measures and aggregations.
Main exports: Failure, Measures, Backend, Backend.within
-/
import DashletBoard.Dashlet
import DashletBoard.Text.Dictionary

namespace DashletBoard

/-- Why a call to the build server failed: causes, the outermost one first. -/
structure Failure where
  causes : List String
deriving Repr, Inhabited, DecidableEq

namespace Failure

/-- A failure of one cause. -/
def of (cause : String) : Failure := ⟨[cause]⟩

/-- All causes, joined by colons. -/
def text (failure : Failure) : String := ": ".intercalate failure.causes

end Failure

/-- The measures of a group: a label for each measure. -/
abbrev Measures := Dictionary String

/-- The calls to the build server.  Each one may change the state `σ` of the world, also when it
fails. -/
structure Backend (σ : Type) where
  /-- All records that the server gives for a tab. -/
  load : String → σ → Except Failure (List Dashlet) × σ
  /-- Stores the records of a tab. -/
  save : String → List Dashlet → σ → Except Failure Unit × σ
  /-- The measures of a group, asked for a tab. -/
  measures : String → String → σ → Except Failure Measures × σ
  /-- The aggregation of a measure in a group, asked for a tab. -/
  aggregation : String → String → String → σ → Except Failure String × σ

/-- The same calls in a world of which the state `σ` is a part. -/
def Backend.within (backend : Backend σ) (part : ρ → σ) (withPart : ρ → σ → ρ) : Backend ρ where
  load tab world :=
    let (answer, state) := backend.load tab (part world)
    (answer, withPart world state)
  save tab records world :=
    let (answer, state) := backend.save tab records (part world)
    (answer, withPart world state)
  measures tab group world :=
    let (answer, state) := backend.measures tab group (part world)
    (answer, withPart world state)
  aggregation tab group measure world :=
    let (answer, state) := backend.aggregation tab group measure (part world)
    (answer, withPart world state)

end DashletBoard
