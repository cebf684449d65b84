import BoxDiagram.Layout.Gate

namespace BoxDiagram

/-!
# The lines of links

A link runs from its first gate along the lanes of its route to its last gate,
turning where a lane crosses the next one. Points that repeat the one before,
and points in the middle of a straight run, are left out.
-/

variable {α : Type} [Scalar α]

namespace Polyline

/-- The distance below which two coordinates count as one. -/
def tolerance : α := Scalar.ofDecimal false 1 (-3)

/-- The coordinates are hardly apart. -/
def isClose (first second : α) : Bool :=
  Scalar.less (Scalar.abs (first - second)) tolerance

/-- The points are hardly apart in both coordinates. -/
def samePoint (first second : Point α) : Bool :=
  isClose first.x second.x && isClose first.y second.y

/-- The points lie on one line along an axis. -/
def collinear (first second third : Point α) : Bool :=
  (isClose first.x second.x && isClose second.x third.x) ||
    (isClose first.y second.y && isClose second.y third.y)

/-- The points kept so far, the latest first, with one more point. -/
def extend (kept : List (Point α)) (point : Point α) : List (Point α) :=
  match kept with
  | [] => [point]
  | latest :: earlier =>
      if samePoint latest point then kept
      else
        match earlier with
        | [] => point :: kept
        | before :: _ =>
            if collinear before latest point then point :: earlier else point :: kept

/-- The points without repetitions and without the middles of straight runs. -/
def simplify (points : List (Point α)) : List (Point α) :=
  (points.foldl extend []).reverse

/-- The turns of a walk from a point along lanes, each given by its axis and fixed coordinate. -/
def turns (point : Point α) : List (Axis × α) → List (Point α)
  | [] => []
  | (axis, line) :: rest =>
      let next := point.withAlong axis line
      next :: turns next rest

/-- All points of a walk from gate to gate along lanes. -/
def corners (start finish : Point α) (lanes : List (Axis × α)) : List (Point α) :=
  let last := lanes.getLast?.map fun (axis, line) => finish.withAlong axis line
  start :: turns start lanes ++ last.toList ++ [finish]

/-- The longer of a segment found before and a new one; the first of equally long ones. -/
def longer (kept : Option (α × Point α)) (segment : Point α × Point α) :
    Option (α × Point α) :=
  let length := segment.1.manhattan segment.2
  let found := some (length, segment.1.midpoint segment.2)
  match kept with
  | some (best, _) => if Scalar.atMost length best then kept else found
  | none => found

/-- The middle of the first of the longest segments. -/
def anchor? (points : List (Point α)) : Option (Point α) :=
  ((points.zip points.tail).foldl longer none).map (·.2)

end Polyline

/-- The roads in their places, for look-up. -/
abbrev PlacedRoads (α : Type) := RoadMap (Option (RoadLayout α))

namespace LinkLayout

/-- The gate of an end of a link. -/
def gate (points : List (GatePoint α)) (link : LinkId) (linkEnd : LinkEnd) :
    Except Failure (Point α) :=
  match points.lookup (link, linkEnd) with
  | some point => .ok point
  | none => .error (.stage .unknownReference s!"{LinkId.display link} has no gate")

/-- The fixed coordinate of the lane of a passage, with its axis. -/
def lane (roads : PlacedRoads α) (link : LinkId) (passage : Passage) :
    Except Failure (Axis × α) :=
  match (roads.get? passage.road).join with
  | some road => .ok (road.fixedAxis, road.laneLine passage.lane)
  | none =>
      .error (.stage .unknownRoad s!"{LinkId.display link} passes a road without geometry")

/-- The link of a number; a route for another one is a failure. -/
def linkOf (links : List Link) (id : LinkId) : Except Failure Link :=
  match links[id]? with
  | some link => .ok link
  | none => .error (.stage .unknownReference s!"route for unknown {LinkId.display id}")

/-- The line of a route: from gate to gate along its lanes. -/
def ofRoute
    (links : List Link)
    (roads : PlacedRoads α)
    (gates : List (GatePoint α))
    (route : Route) : Except Failure (LinkLayout α) := do
  let link ← linkOf links route.link
  let start ← gate gates route.link .source
  let finish ← gate gates route.link .target
  let lanes ← route.passages.mapM (lane roads route.link)
  let points := Polyline.simplify (Polyline.corners start finish lanes)
  return {
    link := route.link
    source := route.source
    target := route.target
    kind := link.kind
    markers := link.markers
    label := link.label
    labelAnchor := link.label.bind fun _ => Polyline.anchor? points
    points }

end LinkLayout

end BoxDiagram
