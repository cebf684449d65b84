import BoxDiagram.Proofs.Layout.OnSide
import BoxDiagram.Proofs.Layout.Side
import Mathlib.Data.List.Range

namespace BoxDiagram

/-!
# Gates are complete and evenly spread

Each end of a route has a gate of its own at the side of the box where the route ends, in
the order of the routes.  The gates of a side are spread around its middle, as far apart as
is asked for or, where the side is too short for that, so that they divide it evenly.
-/

/--
Positions are spread evenly in a range: they lie strictly inside, one after the other, alike
on both sides of the middle, and at the same distance from one to the next.
-/
structure IsSpreadIn (range : Rat × Rat) (gap : Rat) (positions : List Rat) : Prop where
  inside : ∀ position ∈ positions, range.1 < position ∧ position < range.2
  increasing : positions.Pairwise (· < ·)
  symmetric : positions.reverse = positions.map fun position => range.1 + range.2 - position
  spaced :
    positions.IsChain fun position next =>
      next - position =
        if ((positions.length : Rat) - 1) * gap < range.2 - range.1 then gap
        else (range.2 - range.1) / ((positions.length : Rat) + 1)

namespace Gate

/-! ## Where the gates of a side lie -/

/-- All gates of a side find room strictly inside it. -/
theorem step_fits_inside
    {length gap : Rat}
    (count : Nat)
    (isLong : 0 < length)
    (isGap : 0 < gap) :
    0 < step length gap count ∧ ((count : Rat) - 1) * step length gap count < length := by
  simp only [step, Scalar.ofNat_rat, Nat.cast_one, Scalar.less_rat]
  split
  · rename_i fits
    exact ⟨isGap, fits⟩
  · have isPart : 0 < length / ((count : Rat) + 1) := by positivity
    refine ⟨isPart, ?_⟩
    calc
      ((count : Rat) - 1) * (length / (count + 1))
        < ((count : Rat) + 1) * (length / (count + 1)) :=
          mul_lt_mul_of_pos_right (by linarith) isPart
      _ = length := mul_div_cancel₀ length (by positivity)

/-- Steps of one length around the middle of a range spread evenly in it. -/
theorem isSpreadIn_of_steps
    {lower upper distance : Rat}
    {count : Nat}
    (gap : Rat)
    (positive : 0 < distance)
    (fits : ((count : Rat) - 1) * distance < upper - lower)
    (isDistance :
      distance =
        if ((count : Rat) - 1) * gap < upper - lower then gap
        else (upper - lower) / ((count : Rat) + 1)) :
    IsSpreadIn (lower, upper) gap
      ((List.range count).map fun slot : Nat =>
        (lower + upper) / 2 + ((slot : Rat) - ((count : Rat) - 1) / 2) * distance) where
  inside := by
    intro position member
    obtain ⟨slot, isSlot, rfl⟩ := List.mem_map.mp member
    obtain ⟨afterStart, beforeEnd⟩ :=
      slot_mem (List.mem_range.mp isSlot) positive.le le_rfl
    constructor <;> dsimp only <;> linarith
  increasing := by
    rw [List.pairwise_map]
    refine List.pairwise_lt_range.imp fun {first second} isLess => ?_
    have less : (first : Rat) < second := by exact_mod_cast isLess
    have farther := mul_lt_mul_of_pos_right less positive
    linarith
  symmetric := by
    apply List.ext_getElem
    · simp
    intro slot isSlot _
    simp only [List.length_reverse, List.length_map, List.length_range] at isSlot
    have mirrored : ((count - 1 - slot : Nat) : Rat) = (count : Rat) - 1 - slot := by
      rw [Nat.cast_sub (by omega), Nat.cast_sub (by omega), Nat.cast_one]
    simp only [List.getElem_reverse, List.getElem_map, List.getElem_range, List.length_map,
      List.length_range, mirrored]
    ring
  spaced := by
    rw [List.length_map, List.length_range, ← isDistance, List.isChain_map, List.isChain_range]
    intro slot _
    rw [Nat.cast_succ]
    ring

/-- The gates of a side of positive length lie on its edge and are spread evenly along it. -/
theorem isSpreadIn_spread
    {visible : Bounds Rat}
    {side : Direction}
    {gap : Rat}
    (count : Nat)
    (isLong : (visible.range side.axis.other).1 < (visible.range side.axis.other).2)
    (isGap : 0 < gap) :
    (∀ point ∈ spread visible side gap count, point.along side.axis = visible.edge side) ∧
    IsSpreadIn (visible.range side.axis.other) gap
      ((spread visible side gap count).map (·.along side.axis.other)) := by
  constructor
  · intro point member
    obtain ⟨slot, _, rfl⟩ := List.mem_map.mp member
    exact Point.along_ofAxis _ _ _
  · obtain ⟨positive, fits⟩ := step_fits_inside count (sub_pos.mpr isLong) isGap
    have isSpread := isSpreadIn_of_steps gap positive fits (by simp [step])
    simpa [spread, Bounds.along_center, Function.comp_def] using isSpread

/-! ## Which gates a side has -/

/-- The ends of routes at a side, in the order of the routes, the source of each first. -/
def endsAt (routes : List Route) (side : BoxSide) : List (LinkId × LinkEnd) :=
  ((routes.flatMap endsOf).filter (·.1 = side)).map (·.2)

/--
Boxes have gained gates for the ends of routes and no others: at each side one gate for each
end that lies there, in the order of the ends, at the point that is kept for the end.
-/
structure Placed.Serves
    {α : Type}
    (placed : Placed α)
    (nodes : List (NodeLayout α))
    (routes : List Route)
    (gained : NodeId → List (Gate α)) : Prop where
  nodes_eq :
    placed.nodes = nodes.mapIdx fun id node => { node with gates := node.gates ++ gained id }
  gates_eq :
    ∀ id side,
      ((gained id).filter (·.side = side)).map (fun gate => (gate.link, some gate.point)) =
        (endsAt routes (id, side)).map fun linkEnd => (linkEnd.1, placed.points.lookup linkEnd)
  perm_points : (placed.points.map (·.1)).Perm ((routes.flatMap endsOf).map (·.2))

variable {α : Type} [Scalar α] {routes : List Route} {nodes : List (NodeLayout α)}

/-- The gates recorded for a box. -/
def gatesOf (gap : α) (routes : List Route) (nodes : List (NodeLayout α)) (id : NodeId) :
    List (Gate α) :=
  ((recordsOfRoutes gap routes nodes).filter (·.box = id)).map (·.gate)

/-- The gates recorded for a box at one of its sides. -/
theorem filter_gatesOf
    (gap : α)
    (id : NodeId)
    (side : Direction) :
    (gatesOf gap routes nodes id).filter (·.side = side) =
      ((recordsOfRoutes gap routes nodes).filter (·.endAt.1 = (id, side))).map (·.gate) := by
  rw [gatesOf, List.filter_map, List.filter_filter]
  congr 1
  apply List.filter_congr
  intro record _
  simp [Record.endAt, Bool.and_comm]

/-- The ends for which gates are recorded at a side are those of the routes. -/
theorem AreLaidOut.endAts_at_side
    (gap : α)
    (laidOut : AreLaidOut nodes routes)
    (side : BoxSide) :
    ((recordsOfRoutes gap routes nodes).filter (·.endAt.1 = side)).map (·.endAt.2) =
      endsAt routes side := by
  rw [endsAt, ← Groups.filter_ends_ofRoutes, ← endAts_recordsOfRoutes gap laidOut.inside,
    List.filter_map, List.map_map]
  rfl

/-- The recorded gates are those of the routes if each route belongs to a link of its own. -/
theorem AreLaidOut.serves
    (gap : α)
    (laidOut : AreLaidOut nodes routes)
    (nodup : (routes.map (·.link)).Nodup) :
    (Placed.record ⟨nodes, []⟩ (recordsOfRoutes gap routes nodes)).Serves nodes routes
      (gatesOf gap routes nodes) where
  nodes_eq := rfl
  gates_eq id side := by
    rw [filter_gatesOf, ← laidOut.endAts_at_side gap, List.map_map, List.map_map]
    apply List.map_congr_left
    intro record member
    have isFound :=
      Placed.lookup_record nodes (nodup_records gap laidOut.inside nodup)
        (List.mem_filter.mp member).1
    simp only [Function.comp_apply, isFound]
    rfl
  perm_points := by
    have isEnd := (perm_endAts gap laidOut.inside).map (·.2)
    rw [List.map_map] at isEnd
    rw [Placed.record, List.append_nil, List.map_reverse, List.map_map]
    exact (List.reverse_perm _).trans isEnd

/--
Gates can be placed for all routes of different links between boxes that are laid out, and
then the boxes have gained exactly the gates of the ends of these routes, in their order.
With exact coordinates and a positive distance, the gates of a side of positive length lie
on that edge of the visible box and are spread evenly along it.
-/
theorem gates_are_complete_and_spread :
    (∀ {α : Type} [Scalar α] (gap : α) (routes : List Route) (nodes : List (NodeLayout α)),
      (routes.map (·.link)).Nodup → AreLaidOut nodes routes →
        ∃ placed gained, place gap routes nodes = .ok placed ∧
          placed.Serves nodes routes gained) ∧
    ∀ (gap : Rat) (routes : List Route) (nodes : List (NodeLayout Rat)),
      0 < gap → (routes.map (·.link)).Nodup → AreLaidOut nodes routes →
        ∃ placed gained, place gap routes nodes = .ok placed ∧
          placed.Serves nodes routes gained ∧
          ∀ (id : NodeId) (node : NodeLayout Rat) (side : Direction), nodes[id]? = some node →
            (node.visible.range side.axis.other).1 < (node.visible.range side.axis.other).2 →
              (∀ gate ∈ gained id, gate.side = side →
                gate.point.along side.axis = node.visible.edge side) ∧
              IsSpreadIn (node.visible.range side.axis.other) gap
                (((gained id).filter (·.side = side)).map (·.point.along side.axis.other)) := by
  constructor
  · intro α _ gap routes nodes nodup laidOut
    exact ⟨_, _, place_of_laidOut gap laidOut, laidOut.serves gap nodup⟩
  · intro gap routes nodes isGap nodup laidOut
    refine ⟨_, _, place_of_laidOut gap laidOut, laidOut.serves gap nodup, ?_⟩
    intro id node side isNode isLong
    have points :
        ((gatesOf gap routes nodes id).filter (·.side = side)).map (·.point) =
          spread node.visible side gap (endCount routes (id, side)) := by
      rw [filter_gatesOf, List.map_map]
      exact points_of_side gap routes isNode side
    obtain ⟨onEdge, isSpread⟩ :=
      isSpreadIn_spread (endCount routes (id, side)) isLong isGap
    rw [← points] at onEdge isSpread
    constructor
    · intro gate isGate sameSide
      exact onEdge _ (List.mem_map_of_mem (List.mem_filter.mpr ⟨isGate, by simpa using sameSide⟩))
    · rwa [List.map_map] at isSpread

/--
Two links from another box and one from a side back to it make four gates on that side, too
many for a distance of eight where it is twenty-two long.
-/
theorem exists_gates_of_crowded_side :
    ∃ (placed : Placed Rat) (gained : NodeId → List (Gate Rat)),
      place 8
          [⟨0, 1, 0, .crossReverse, .cross, []⟩, ⟨1, 0, 0, .cross, .cross, []⟩,
            ⟨2, 1, 0, .crossReverse, .cross, []⟩]
          [⟨0, .cell, none, ⟨8, 300, 30, 330⟩, ⟨8, 300, 30, 330⟩, ⟨8, 300, 30, 330⟩, none, []⟩,
            ⟨1, .cell, none, ⟨8, 400, 30, 430⟩, ⟨8, 400, 30, 430⟩, ⟨8, 400, 30, 430⟩, none, []⟩] =
        .ok placed ∧
      ((gained 0).filter (·.side = .cross)).map (·.link) = [0, 1, 1, 2] ∧
      (∀ gate ∈ gained 0, gate.side = .cross → gate.point.y = 330) ∧
      IsSpreadIn (8, 30) 8 (((gained 0).filter (·.side = .cross)).map (·.point.x)) := by
  obtain ⟨placed, gained, isPlaced, serves, areSpread⟩ :=
    gates_are_complete_and_spread.2 8
      [⟨0, 1, 0, .crossReverse, .cross, []⟩, ⟨1, 0, 0, .cross, .cross, []⟩,
        ⟨2, 1, 0, .crossReverse, .cross, []⟩]
      [⟨0, .cell, none, ⟨8, 300, 30, 330⟩, ⟨8, 300, 30, 330⟩, ⟨8, 300, 30, 330⟩, none, []⟩,
        ⟨1, .cell, none, ⟨8, 400, 30, 430⟩, ⟨8, 400, 30, 430⟩, ⟨8, 400, 30, 430⟩, none, []⟩]
      (by norm_num) (by decide) (by
        intro route isRoute linkEnd
        simp only [List.mem_cons, List.not_mem_nil, or_false] at isRoute
        rcases isRoute with rfl | rfl | rfl <;> cases linkEnd <;> exact ⟨_, rfl, rfl⟩)
  obtain ⟨onEdge, isSpread⟩ := areSpread 0 _ .cross rfl (by decide +kernel)
  refine ⟨placed, gained, isPlaced, ?_, onEdge, isSpread⟩
  have links := congrArg (List.map (·.1)) (serves.gates_eq 0 .cross)
  rw [List.map_map, List.map_map] at links
  exact links

end Gate

end BoxDiagram
