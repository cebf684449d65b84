import BoxDiagram.Frame.PerDirection
import BoxDiagram.Route.Basic

namespace BoxDiagram

/-!
# Climbing out of a box

A stub is a list of roads that leads from a box into a container above it. At
each turn it follows one direction as far as no sibling lies ahead, and then turns
to one side. What was found for a box and a direction is remembered, since many
climbs pass it.
-/

/-- A way from a box into a container above it. -/
structure Stub where
  /-- The direction in which the way leaves the box. -/
  first : Direction
  /-- The direction in which the way travels before its last road. -/
  last : Direction
  /-- The roads before the last one. -/
  before : List Road
  /-- The road of the container. -/
  lastRoad : Road
  deriving Repr, DecidableEq

/-- The roads of a stub, from the box on. -/
def Stub.roads (stub : Stub) : List Road :=
  stub.before ++ [stub.lastRoad]

namespace Climb

/-- The roads of a way: those before the last one, and the last one. -/
abbrev Way := List Road × Road

/-- The shortest way found for each final direction. -/
abbrev Ways := PerDirection (Option Way)

/-- The ways found so far for boxes and directions. -/
abbrev Memory := List ((NodeId × Direction) × Ways)

/-- What all climbs for one link share. -/
structure Frame (α : Type) where
  graph : Graph α
  /-- The depth of the container into which the climbs lead. -/
  top : Nat
  /-- The greatest number of turns. -/
  limit : Nat

variable {α : Type}

/-- The shorter of two ways; the first of two equally long ones. -/
def shorter (kept found : Option Way) : Option Way :=
  match kept, found with
  | some old, some new => if new.1.length < old.1.length then some new else some old
  | some old, none => some old
  | none, new => new

/-- The way after a road, if it is given. -/
def after (head : Option Road) (way : Way) : Way :=
  (head.toList ++ way.1, way.2)

/-- The ways after a road, against those found before. -/
def Ways.improve (kept : Ways) (head : Option Road) (found : Ways) : Ways :=
  .ofFunction fun last => shorter (kept.toward last) ((found.toward last).map (after head))

/-- The box a number of levels above. -/
def ancestor (frame : Frame α) (id : NodeId) (level : Nat) : Except Failure NodeId := do
  match ← frame.graph.ancestorAt id level with
  | some found => return found
  | none =>
      let name ← frame.graph.displayName id
      throw (.stage .noCommonContainer s!"`{name}` has no ancestor {level} levels up")

/-- The road that a box reaches in a direction a number of levels above. -/
def roadAt (frame : Frame α) (id : NodeId) (level : Nat) (direction : Direction) :
    Except Failure Road := do
  if level = 0 then throw (.fault (.aboveRoot id))
  let below ← ancestor frame id (level - 1)
  match ← frame.graph.adjacentRoad below direction with
  | some road => return road
  | none =>
      let name ← frame.graph.displayName below
      throw (.stage .noCommonContainer s!"`{name}` has no parent")

/-- The failure that a climb has too many turns. -/
def tooManyTurns (frame : Frame α) (id : NodeId) : Except Failure (Ways × Memory) := do
  let name ← frame.graph.displayName id
  throw (.stage .climbLimit s!"climbing out of `{name}` exceeded {frame.limit} steps")

/--
The shortest ways from a box that start in a direction, with what is remembered
before and after. The first argument is the number of turns that are left, plus one.
-/
def ways (frame : Frame α) : Nat → NodeId → Direction → Memory → Except Failure (Ways × Memory)
  | 0, id, _, _ => tooManyTurns frame id
  | turns + 1, id, direction, memory => do
      match memory.lookup (id, direction) with
      | some found => return (found, memory)
      | none =>
          let node ← Failure.ofGraph (frame.graph.find id)
          let budget := node.boundary.toward direction
          if node.depth < frame.top then throw (.fault (.aboveRoot id))
          let remaining := node.depth - frame.top
          if remaining ≤ budget then
            let road ← roadAt frame id remaining direction
            let found : Ways := (PerDirection.replicate none).set direction (some ([], road))
            return (found, ((id, direction), found) :: memory)
          else
            let head ← if 1 ≤ budget then some <$> roadAt frame id budget direction else pure none
            let holder ← ancestor frame id budget
            let turn (reached : Ways × Memory) (side : Direction) :
                Except Failure (Ways × Memory) := do
              let (found, remembered) ← ways frame turns holder side reached.2
              return (reached.1.improve head found, remembered)
            let (found, remembered) ←
              direction.perpendicular.foldlM turn (PerDirection.replicate none, memory)
            return (found, ((id, direction), found) :: remembered)

/-- The stubs of ways that start in a direction, against those found before. -/
def improveStubs (kept : PerDirection (Option Stub)) (first : Direction) (found : Ways) :
    PerDirection (Option Stub) :=
  .ofFunction fun last =>
    match kept.toward last, found.toward last with
    | some old, some (before, lastRoad) =>
        if before.length < old.before.length then some ⟨first, last, before, lastRoad⟩
        else some old
    | some old, none => some old
    | none, some (before, lastRoad) => some ⟨first, last, before, lastRoad⟩
    | none, none => none

/--
The shortest stubs of an end of a link, at most one for each final direction, with
what is remembered before and after.
-/
def stubs (frame : Frame α) (endpoint : Endpoint) (memory : Memory) :
    Except Failure (List Stub × Memory) := do
  let exits ← Failure.ofGraph (frame.graph.allowedExits endpoint.node endpoint.edge)
  let leave (reached : PerDirection (Option Stub) × Memory) (first : Direction) :
      Except Failure (PerDirection (Option Stub) × Memory) := do
    let (found, remembered) ← ways frame (frame.limit + 1) endpoint.node first reached.2
    return (improveStubs reached.1 first found, remembered)
  let (best, remembered) ← exits.foldlM leave (PerDirection.replicate none, memory)
  return (best.toList.filterMap id, remembered)

end Climb

end BoxDiagram
