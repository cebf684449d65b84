import BoxDiagram.Layout.Engine
import BoxDiagram.Outline.Basic

namespace BoxDiagram

/-!
# Hooks around the stages

Each stage of a compilation can be wrapped: one hook changes what goes into the
stage and another one what comes out of it. A hook that is not set changes nothing.
-/

/-- The hooks of a stage from one type to another. -/
structure StageHooks (ι ο : Type) where
  before : ι → ι := id
  after : ο → ο := id

namespace StageHooks

variable {ι ο ε : Type}

/-- A stage between its hooks. -/
def run (hooks : StageHooks ι ο) (stage : ι → ο) (input : ι) : ο :=
  hooks.after (stage (hooks.before input))

/-- A stage that can fail with its hooks; nothing is changed in a failure. -/
def tryRun (hooks : StageHooks ι ο) (stage : ι → Except ε ο) (input : ι) : Except ε ο :=
  (stage (hooks.before input)).map hooks.after

/-- Without hooks, a stage is as it is. -/
@[simp] theorem run_default (stage : ι → ο) (input : ι) :
    run {} stage input = stage input := rfl

/-- Without hooks, a stage that can fail is as it is. -/
@[simp] theorem tryRun_default (stage : ι → Except ε ο) (input : ι) :
    tryRun {} stage input = stage input := by
  change (stage input).map id = stage input
  cases stage input <;> rfl

end StageHooks

/-- The hooks of all stages. -/
structure Hooks (α : Type) where
  /-- Around reading a text. -/
  read : StageHooks String Outline := {}
  /-- Around resolving an outline. -/
  resolve : StageHooks Outline (Diagram α) := {}
  /-- Around planning the routes of links. -/
  route : StageHooks (List Link) (List Route) := {}
  /-- Around giving lanes to routes. -/
  lanes : StageHooks (List Route) RoadTable := {}
  /-- Around the final layout. -/
  layout : StageHooks (LayoutInput α) (Layout α) := {}

end BoxDiagram
