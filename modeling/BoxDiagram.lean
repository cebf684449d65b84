import BoxDiagram.CommandLine.Disk
import BoxDiagram.Main
import BoxDiagram.Number.Exact
import BoxDiagram.Proofs.Attempt
import BoxDiagram.Proofs.Graph.Numbering
import BoxDiagram.Proofs.Graph.Ancestors
import BoxDiagram.Proofs.Road.Exits
import BoxDiagram.Proofs.Graph.Resolved
import BoxDiagram.Proofs.Route.Walk
import BoxDiagram.Proofs.Route.Climb
import BoxDiagram.Proofs.Route.Remembered
import BoxDiagram.Proofs.Route.Stub
import BoxDiagram.Proofs.Route.Ends
import BoxDiagram.Proofs.Route.Topological
import BoxDiagram.Proofs.Road.Map
import BoxDiagram.Proofs.Route.NextRoads
import BoxDiagram.Proofs.Route.Search
import BoxDiagram.Proofs.Route.Planner
import BoxDiagram.Proofs.Graph.Subtree
import BoxDiagram.Proofs.Lane.Table
import BoxDiagram.Proofs.Layout.Sizing
import BoxDiagram.Proofs.Layout.Engine
import BoxDiagram.Proofs.Route.Total
import BoxDiagram.Proofs.Compiler
import BoxDiagram.Proofs.Geometry.Bounds
import BoxDiagram.Proofs.Diagram.Measured
import BoxDiagram.Proofs.Layout.Arrangement
import BoxDiagram.Proofs.Layout.Fit
import BoxDiagram.Proofs.Layout.Nesting
import BoxDiagram.Proofs.Graph.Addresses
import BoxDiagram.Proofs.Diagnostic.Located
import BoxDiagram.Proofs.Diagnostic.Placed
import BoxDiagram.Proofs.Text.Span
import BoxDiagram.Proofs.Outline.Grammar
import BoxDiagram.Proofs.Outline.AccessName
import BoxDiagram.Proofs.Outline.Cursor
import BoxDiagram.Proofs.Outline.Boxes
import BoxDiagram.Proofs.Outline.Declare
import BoxDiagram.Proofs.Outline.Quoted
import BoxDiagram.Proofs.Outline.Parts
import BoxDiagram.Proofs.Outline.Written
import BoxDiagram.Proofs.Outline.Reader
import BoxDiagram.Proofs.Outline.Places
import BoxDiagram.Proofs.Outline.Sound
import BoxDiagram.Proofs.Route.Renumber
import BoxDiagram.Proofs.Layout.Vacant
import BoxDiagram.Proofs.Layout.Side
import BoxDiagram.Proofs.LinkOrder
import BoxDiagram.Proofs.Geometry.Order
import BoxDiagram.Proofs.Layout.Flow
import BoxDiagram.Proofs.Layout.Ordered
import BoxDiagram.Proofs.Graph.Siblings
import BoxDiagram.Proofs.Graph.Boundary
import BoxDiagram.Proofs.Layout.Passing
import BoxDiagram.Proofs.Layout.Clearance
import BoxDiagram.Proofs.Layout.OnSide
import BoxDiagram.Proofs.Layout.Spread
import BoxDiagram.Proofs.LinkClearance
import BoxDiagram.Proofs.ParseError
import BoxDiagram.Proofs.Graph.Paths
import BoxDiagram.Proofs.Diagram.Expanded
import BoxDiagram.Proofs.Outline.Arrows
import BoxDiagram.Proofs.Route.Neighbours
import BoxDiagram.Proofs.Route.Arrival
import BoxDiagram.Proofs.NeighbourLinks
import BoxDiagram.Proofs.Number.Rounding
import BoxDiagram.Proofs.Number.Unpacked
import BoxDiagram.Proofs.Number.Packed
import BoxDiagram.Proofs.Number.Single
import BoxDiagram.Proofs.Number.Compared
import BoxDiagram.Proofs.Number.Bounded
import BoxDiagram.Proofs.Number.Span
import BoxDiagram.Proofs.Number.Counted
import BoxDiagram.Proofs.Diagram.Numbers
import BoxDiagram.Proofs.Layout.Numbers
import BoxDiagram.Proofs.Layout.Extents
import BoxDiagram.Proofs.Layout.OnCanvas
import BoxDiagram.Proofs.Layout.Finite
import BoxDiagram.Proofs.FiniteLayout
import BoxDiagram.Proofs.Lane.Allocation
import BoxDiagram.Proofs.Route.Shortest
import BoxDiagram.Proofs.Number.Distance
import BoxDiagram.Proofs.Route.Goals
import BoxDiagram.Proofs.Route.Run
import BoxDiagram.Proofs.Route.Reachable
import BoxDiagram.Proofs.Route.Exhaustive
import BoxDiagram.Proofs.SearchLimits
import BoxDiagram.Proofs.Route.Trace
import BoxDiagram.Proofs.Route.Simple
import BoxDiagram.Proofs.SimpleRoutes
import BoxDiagram.Proofs.Layout.Lanes
import BoxDiagram.Proofs.LinkLanes
import BoxDiagram.Proofs.Diagnostic.Lookup
import BoxDiagram.Proofs.Layout.Mirror
import BoxDiagram.Proofs.Route.AnyGraph
import BoxDiagram.Proofs.Outline.Given
import BoxDiagram.Proofs.Outline.Attributes
import BoxDiagram.Proofs.Graph.Ancestry
import BoxDiagram.Proofs.Text.Char
import BoxDiagram.Proofs.Outline.Arrow
import BoxDiagram.Proofs.Layout.NormalForm
import BoxDiagram.Proofs.Number.Monotone
import BoxDiagram.Proofs.Layout.Growth
import BoxDiagram.Proofs.LaneGrowth
