import BoxDiagram.Compiler.Hooks
import BoxDiagram.Diagram.Resolve
import BoxDiagram.Route.Planner

namespace BoxDiagram

/-!
# From a text to a layout

A text is read to an outline, the outline is resolved to a diagram, links get
routes and lanes, and at last everything gets its place. Planner, engine and
measure can be replaced, and each stage can be wrapped by hooks.
-/

/-- How texts are compiled to layouts. -/
structure Compiler (α : Type) [Scalar α] where
  config : Config := {}
  hooks : Hooks α := {}
  /-- The planner to use instead of the configured one. -/
  planner : Option (RoutePlanner α) := none
  engine : LayoutEngine α := LayoutEngine.nested LayoutEngine.defaultDepthLimit
  measure : TextMeasure α := TextMeasure.byCount

namespace Compiler

variable {α : Type} [Scalar α]

/-- The diagram of a text. A failure keeps the text as it was given to the reader. -/
def parse (compiler : Compiler α) (source : String) : Except Failure (Diagram α) := do
  let normalized := String.ofList (Text.normalizeNewlines source.toList)
  let text := compiler.hooks.read.before normalized
  let failure (diagnostic : Diagnostic) : Failure := .parse (.ofDiagnostic diagnostic) text
  let outline ← (Outline.read text).mapError failure
  let read := compiler.hooks.read.after outline
  (compiler.hooks.resolve.tryRun Diagram.ofOutline read).mapError failure

/-- The layout of a diagram without links, with lanes for links that have yet to be planned. -/
def referenceLayout
    (compiler : Compiler α)
    (diagram : Diagram α)
    (labels : Array (Option (Size α))) : Except Failure (Layout α) := do
  let laneMin := max diagram.document.laneMin compiler.config.reference.laneMin
  let table ← RoadTable.allocate diagram.graph [] laneMin
  compiler.engine { diagram, table, labels }

/-- The routes of links, by the planner that was set or else by the configured one. -/
def plan
    (compiler : Compiler α)
    (diagram : Diagram α)
    (labels : Array (Option (Size α)))
    (links : List Link) : Except Failure (List Route) :=
  let planner := compiler.planner.getD (.ofKind compiler.config.route.planner)
  planner {
    graph := diagram.graph
    links
    config := compiler.config.route
    reference := fun _ => compiler.referenceLayout diagram labels }

/-- A diagram with its labels measured, its links planned and its lanes given out. -/
def allocate (compiler : Compiler α) (diagram : Diagram α) : Except Failure (LayoutInput α) := do
  let labels := diagram.labelSizes compiler.measure
  let links := compiler.hooks.route.before diagram.links
  let routes := compiler.hooks.route.after (← compiler.plan diagram labels links)
  let table ← RoadTable.allocate diagram.graph (compiler.hooks.lanes.before routes)
    diagram.document.laneMin
  return { diagram := { diagram with links }, table, labels }

/-- The layout of a diagram whose lanes were given out. -/
def place (compiler : Compiler α) (input : LayoutInput α) : Except Failure (Layout α) :=
  compiler.hooks.layout.tryRun compiler.engine
    { input with table := compiler.hooks.lanes.after input.table }

/-- The layout of a diagram: what is allocated is placed. -/
def layout (compiler : Compiler α) (diagram : Diagram α) : Except Failure (Layout α) := do
  compiler.place (← compiler.allocate diagram)

/-- The layout of a source. -/
def compile (compiler : Compiler α) (source : String) : Except Failure (Layout α) := do
  compiler.layout (← compiler.parse source)

end Compiler

end BoxDiagram
