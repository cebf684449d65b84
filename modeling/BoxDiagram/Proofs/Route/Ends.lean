import BoxDiagram.Proofs.Route.Walk

namespace BoxDiagram

/-!
# Checking links and routes

A link of a resolved diagram passes the check before planning, which finds the
innermost container around its ends.  A route that is a walk between the ends
passes the check after planning.
-/

variable {α : Type} {graph : Graph α}

namespace LinkEnds

/-- The ends of a link are boxes of the graph below their innermost common container. -/
structure AreChecked
    (graph : Graph α)
    (ends : LinkEnds)
    (source target common : Node α)
    (climb descent : Nat) : Prop where
  sourceFound : graph.get? ends.source.node = some source
  targetFound : graph.get? ends.target.node = some target
  common_id : common.id = ends.common
  sourceBelow : graph.IsOuter source (climb + 1) common
  targetBelow : graph.IsOuter target (descent + 1) common
  isCommon : graph.IsCommon ends.common ends.source.node ends.target.node

namespace AreChecked

variable {ends : LinkEnds} {source target common : Node α} {climb descent : Nat}

/-- The source of a checked link is inside of the common container. -/
theorem source_deep
    (checked : ends.AreChecked graph source target common climb descent) :
    common.depth < source.depth := by
  have := checked.sourceBelow.depth_eq
  omega

/-- The target of a checked link is inside of the common container. -/
theorem target_deep
    (checked : ends.AreChecked graph source target common climb descent) :
    common.depth < target.depth := by
  have := checked.targetBelow.depth_eq
  omega

/-- The common container of a checked link is in the graph. -/
theorem commonFound
    (checked : ends.AreChecked graph source target common climb descent) :
    graph.get? ends.common = some common := by
  rw [← checked.common_id]
  exact checked.sourceBelow.found

end AreChecked

/-- An end is accepted exactly if its box is in the graph. -/
theorem checkEndpoint_eq_ok_iff
    {id : LinkId}
    {endpoint : Endpoint} :
    checkEndpoint graph id endpoint = .ok () ↔
      ∃ node, graph.get? endpoint.node = some node := by
  rw [checkEndpoint]
  cases graph.get? endpoint.node <;> simp

/-- A container above a box is at some level outward. -/
theorem exists_isOuter_of_above
    (tree : graph.IsTree)
    {id common : NodeId}
    {node container : Node α}
    (found : graph.get? id = some node)
    (containerFound : graph.get? common = some container)
    (above : graph.Above common id) :
    ∃ level, graph.IsOuter node (level + 1) container := by
  have member := (tree.above_iff found).mp above
  obtain ⟨position, atPosition⟩ :=
    List.mem_iff_getElem?.mp (List.mem_reverse.mpr member)
  have atLevel : node.outward[position + 1]? = some common := atPosition
  have inside : position + 1 < node.outward.length :=
    (List.getElem?_eq_some_iff.mp atLevel).1
  rw [Node.length_outward] at inside
  obtain ⟨outer, isOuter⟩ := tree.exists_isOuter found (position + 1) (by omega)
  have same : outer.id = common :=
    Option.some.inj (isOuter.getElem?_outward.symm.trans atLevel)
  have outerFound := isOuter.found
  rw [same, containerFound] at outerFound
  obtain rfl := Option.some.inj outerFound
  exact ⟨position, isOuter⟩

/-- A link that passes the check joins boxes below a common container. -/
theorem areChecked_of_ofLink
    (tree : graph.IsTree)
    {id : LinkId}
    {link : Link}
    {ends : LinkEnds}
    (succeeded : LinkEnds.ofLink graph id link = .ok ends) :
    ends.id = id ∧ ends.source = link.source ∧ ends.target = link.target ∧
      ∃ source target common climb descent,
        ends.AreChecked graph source target common climb descent := by
  rw [LinkEnds.ofLink] at succeeded
  obtain ⟨_, sourceChecked, succeeded⟩ := Attempt.bind_eq_ok_iff.mp succeeded
  obtain ⟨_, targetChecked, succeeded⟩ := Attempt.bind_eq_ok_iff.mp succeeded
  obtain ⟨source, sourceFound⟩ := checkEndpoint_eq_ok_iff.mp sourceChecked
  obtain ⟨target, targetFound⟩ := checkEndpoint_eq_ok_iff.mp targetChecked
  obtain ⟨related, _, succeeded⟩ := Attempt.bind_eq_ok_iff.mp succeeded
  cases related with
  | true =>
      obtain ⟨sourceName, _, succeeded⟩ := Attempt.bind_eq_ok_iff.mp succeeded
      obtain ⟨targetName, _, succeeded⟩ := Attempt.bind_eq_ok_iff.mp succeeded
      cases succeeded
  | false =>
      obtain ⟨answer, answered, succeeded⟩ := Attempt.bind_eq_ok_iff.mp succeeded
      rw [Attempt.liftM_eq_ok_iff] at answered
      cases answer with
      | none =>
          cases succeeded
      | some innermost =>
          cases succeeded
          have isCommon := tree.isCommon_of_commonAncestor sourceFound targetFound answered
          obtain ⟨_, common, _, commonId, isOuter⟩ :=
            tree.exists_isOuter_of_mem sourceFound
              (List.mem_cons_of_mem _ (List.mem_reverse.mpr
                ((tree.above_iff sourceFound).mp isCommon.aboveFirst)))
          have commonFound : graph.get? innermost = some common := commonId ▸ isOuter.found
          obtain ⟨climb, sourceBelow⟩ :=
            exists_isOuter_of_above tree sourceFound commonFound isCommon.aboveFirst
          obtain ⟨descent, targetBelow⟩ :=
            exists_isOuter_of_above tree targetFound commonFound isCommon.aboveSecond
          exact ⟨rfl, rfl, rfl, source, target, common, climb, descent,
            sourceFound, targetFound, commonId, sourceBelow, targetBelow, isCommon⟩

/-- A link between boxes that lie apart passes the check. -/
theorem exists_ofLink
    (tree : graph.IsTree)
    (id : LinkId)
    {link : Link}
    {source target : Node α}
    (sourceFound : graph.get? link.source.node = some source)
    (targetFound : graph.get? link.target.node = some target)
    (apart : source.isRelatedTo target = false) :
    ∃ ends, LinkEnds.ofLink graph id link = .ok ends := by
  obtain ⟨sourceDeep, targetDeep⟩ :=
    tree.depth_pos_of_not_related sourceFound targetFound apart
  obtain ⟨common, answered⟩ :=
    tree.exists_commonAncestor sourceFound targetFound sourceDeep targetDeep
  rw [LinkEnds.ofLink, checkEndpoint_eq_ok_iff.mpr ⟨source, sourceFound⟩, Attempt.ok_bind,
    checkEndpoint_eq_ok_iff.mpr ⟨target, targetFound⟩, Attempt.ok_bind]
  dsimp only
  rw [Graph.isRelated_eq sourceFound targetFound (tree.id_of_get? sourceFound)
    (tree.id_of_get? targetFound), apart, answered]
  exact ⟨_, rfl⟩

/-- The directions in which a box of the graph may leave can be listed, and are not none. -/
theorem exists_allowedExits
    {endpoint : Endpoint}
    {node : Node α}
    (found : graph.get? endpoint.node = some node) :
    ∃ allowed, graph.allowedExits endpoint.node endpoint.edge = .ok allowed ∧ allowed ≠ [] := by
  cases endpoint.edge with
  | none =>
      exact ⟨Direction.all, rfl, by simp [Direction.all]⟩
  | some side =>
      refine ⟨[node.ownFrame.absoluteOf side], ?_, by simp⟩
      rw [Graph.allowedExits, Graph.find_eq_ok_iff.mpr found]
      rfl

/-- Whether a box comes to a road is told by the roads that it reaches. -/
theorem leadsTo_eq
    {id : NodeId}
    {node : Node α}
    {direction : Direction}
    {exits : List (Nat × Road)}
    (found : graph.get? id = some node)
    (listed : graph.exitRoads id direction node.depth = .ok exits)
    (road : Road) :
    graph.leadsTo id road direction = .ok (exits.any (·.2 == road)) := by
  rw [Graph.leadsTo, Graph.find_eq_ok_iff.mpr found, Attempt.ok_bind]
  dsimp only
  rw [listed]
  rfl

/-- A box that leaves onto a road below a container reaches it. -/
theorem reaches_of_leavesOnto
    (tree : graph.IsTree)
    {common node : Node α}
    {endpoint : Endpoint}
    {exit : Direction}
    {road : Road}
    {level : Nat}
    (found : graph.get? endpoint.node = some node)
    (isOuter : graph.IsOuter node level common)
    (leaves : graph.LeavesOnto common.id endpoint exit road) :
    graph.reaches endpoint.node road endpoint.edge = .ok true := by
  obtain ⟨allowed, ceiling, exits, allows, isAllowed, climbs, listed, member⟩ := leaves
  rw [isOuter.climb_eq found] at climbs
  obtain rfl := Except.ok.inj climbs
  obtain ⟨⟨number, other⟩, entryMember, sameRoad⟩ := List.mem_map.mp member
  obtain rfl : other = road := sameRoad
  obtain ⟨passed, below, container, rfl, withinBoundary, withinCeiling, meets⟩ :=
    (tree.mem_exitRoads_iff found listed).mp entryMember
  have answered :
      ∀ direction ∈ allowed, ∃ answer,
        graph.leadsTo endpoint.node other direction = .ok answer := by
    intro direction _
    obtain ⟨others, othersListed⟩ := tree.exists_exitRoads found direction node.depth
    exact ⟨_, leadsTo_eq found othersListed other⟩
  obtain ⟨others, othersListed, otherMember⟩ :=
    tree.exists_exitRoads_of_meets found meets withinBoundary meets.level_lt
  obtain ⟨entry, entryListed, sameRoad⟩ := List.mem_map.mp otherMember
  have leads : graph.leadsTo endpoint.node other exit = .ok true := by
    rw [leadsTo_eq found othersListed,
      List.any_eq_true.mpr ⟨entry, entryListed, by simp [sameRoad]⟩]
  rw [Graph.reaches, allows, Attempt.ok_bind]
  exact Attempt.anyM_eq_ok_true answered isAllowed leads

/-- A walk between the ends of a link passes the check after planning. -/
theorem verify_of_isWalk
    (tree : graph.IsTree)
    {ends : LinkEnds}
    {source target common : Node α}
    {climb descent : Nat}
    {route : Route}
    (checked : ends.AreChecked graph source target common climb descent)
    (isWalk :
      graph.IsWalk ends.common ends.source ends.target route.sourceExit route.targetExit
        route.roads) :
    ends.verify graph route = .ok () := by
  obtain ⟨first, isFirst, leavesSource⟩ := isWalk.first
  obtain ⟨last, isLast, leavesTarget⟩ := isWalk.last
  rw [← checked.common_id] at leavesSource leavesTarget
  have firstReached :=
    reaches_of_leavesOnto tree checked.sourceFound checked.sourceBelow leavesSource
  have lastReached :=
    reaches_of_leavesOnto tree checked.targetFound checked.targetBelow leavesTarget
  rw [LinkEnds.verify, isFirst, isLast]
  simp only [LinkEnds.requireReach, firstReached, lastReached]
  rfl

end LinkEnds

end BoxDiagram
