import BoxDiagram.Layout.Sizing
import BoxDiagram.Proofs.Graph.Ancestors
import BoxDiagram.Proofs.Road.Map

namespace BoxDiagram

/-!
# Sized boxes

Every box of a tree gets a size if the levels that may follow reach the deepest
boxes and every road has its lanes.  A sized box is a cell or a container of the
graph, with a sized box for each of its children.
-/

variable {α : Type}

/-- The roads of a box: a cell has none. -/
def Road.ofBox (node : Node α) : List Road :=
  if node.isContainer then Road.ofContainer node else []

/-- The roads of a container are its gaps and both edges. -/
theorem Road.mem_ofContainer_iff
    {node : Node α}
    {road : Road} :
    road ∈ Road.ofContainer node ↔
      (∃ avenue < node.mainAvenues, road = .main node.id avenue) ∨
        road = .cross node.id 0 ∨ road = .cross node.id 1 := by
  simp [Road.ofContainer, eq_comm]

namespace LayoutInput

variable {input : LayoutInput α} {node : Node α}

/-- The roads of each container have lanes in the table. -/
theorem exists_ownRoads
    (tree : input.diagram.graph.IsTree)
    (isOver : input.table.lanes.IsOver input.diagram.graph)
    {id : NodeId}
    (found : input.diagram.graph.get? id = some node)
    (isContainer : node.isContainer = true) :
    ∃ roads, input.ownRoads node = .ok roads := by
  have sameId := tree.id_of_get? found
  have has_lanes :
      ∀ road, input.diagram.graph.IsRoadOf node road → ∃ lanes, input.lanes road = .ok lanes := by
    intro road isRoad
    obtain ⟨lanes, isFound⟩ := isOver.exists_get?_iff.mpr ⟨node, isRoad⟩
    exact ⟨lanes, by rw [LayoutInput.lanes, RoadTable.get?, isFound]⟩
  obtain ⟨gaps, gapsFound⟩ :
      ∃ gaps,
        ((List.range node.mainAvenues).mapM fun avenue =>
          input.lanes (.main node.id avenue)) = .ok gaps :=
    Attempt.exists_mapM_eq_ok fun avenue inside =>
      has_lanes _ ⟨sameId ▸ found, isContainer,
        Nat.le_of_lt_succ (List.mem_range.mp inside)⟩
  obtain ⟨startEdge, startFound⟩ :=
    has_lanes (.cross node.id 0) ⟨sameId ▸ found, isContainer, Nat.zero_lt_two⟩
  obtain ⟨endEdge, endFound⟩ :=
    has_lanes (.cross node.id 1) ⟨sameId ▸ found, isContainer, Nat.one_lt_two⟩
  exact ⟨⟨gaps, startEdge, endEdge⟩, by
    rw [ownRoads, gapsFound, Attempt.ok_bind, startFound, Attempt.ok_bind, endFound]
    rfl⟩

/-- A container has one more gap than children. -/
theorem length_gaps_of_ownRoads
    {roads : OwnRoads}
    (succeeded : input.ownRoads node = .ok roads) :
    roads.gaps.length = node.children.length + 1 := by
  obtain ⟨gaps, gapsFound, succeeded⟩ := Attempt.bind_eq_ok_iff.mp succeeded
  obtain ⟨startEdge, _, succeeded⟩ := Attempt.bind_eq_ok_iff.mp succeeded
  obtain ⟨endEdge, _, same⟩ := Attempt.bind_eq_ok_iff.mp succeeded
  cases same
  rw [Attempt.length_of_mapM gapsFound, List.length_range, Node.mainAvenues]

variable [Scalar α]

/-- A sized box is a cell of the graph, or a container with sized children. -/
theorem measure_cases
    {limit levels : Nat}
    {id : NodeId}
    {box : SizedBox α}
    (succeeded : input.measure limit (levels + 1) id = .ok box) :
    ∃ node, input.diagram.graph.get? id = some node ∧
      (node.isContainer = false ∧ box = input.sizedCell node ∨
        node.isContainer = true ∧
          ∃ children roads, node.children.mapM (input.measure limit levels) = .ok children ∧
            input.ownRoads node = .ok roads ∧
              box = input.sizedContainer node roads children) := by
  rw [measure] at succeeded
  obtain ⟨node, found, succeeded⟩ := Attempt.bind_eq_ok_iff.mp succeeded
  rw [Attempt.ofGraph_eq_ok_iff, Graph.find_eq_ok_iff] at found
  refine ⟨node, found, ?_⟩
  cases isContainer : node.isContainer with
  | false =>
      simp only [isContainer, Bool.false_eq_true, if_false] at succeeded
      exact .inl ⟨rfl, (Except.ok.inj succeeded).symm⟩
  | true =>
      simp only [isContainer, if_true] at succeeded
      obtain ⟨children, childrenFound, succeeded⟩ := Attempt.bind_eq_ok_iff.mp succeeded
      obtain ⟨roads, roadsFound, same⟩ := Attempt.bind_eq_ok_iff.mp succeeded
      exact .inr ⟨rfl, children, roads, childrenFound, roadsFound,
        (Except.ok.inj same).symm⟩

/-- A box that was measured is the one of its number. -/
theorem get?_of_measure
    {limit levels : Nat}
    {id : NodeId}
    {box : SizedBox α}
    (succeeded : input.measure limit levels id = .ok box) :
    input.diagram.graph.get? id = some box.node := by
  cases levels with
  | zero =>
      cases succeeded
  | succ levels =>
      obtain ⟨node, found, ⟨_, rfl⟩ | ⟨_, children, roads, _, _, rfl⟩⟩ :=
        measure_cases succeeded
      · exact found
      · exact found

/-- Every box of a tree gets a size if enough levels may follow. -/
theorem exists_measure
    (tree : input.diagram.graph.IsTree)
    (isOver : input.table.lanes.IsOver input.diagram.graph)
    (limit : Nat)
    {levels : Nat}
    {id : NodeId}
    (found : input.diagram.graph.get? id = some node)
    (enough : maxNesting < node.depth + levels) :
    ∃ box, input.measure limit levels id = .ok box := by
  induction levels generalizing id node with
  | zero =>
      have := tree.depth_le found
      omega
  | succ levels inductionHypothesis =>
      rw [measure, Graph.find_eq_ok_iff.mpr found, Attempt.ofGraph_ok, Attempt.ok_bind]
      cases isContainer : node.isContainer with
      | false =>
          exact ⟨_, rfl⟩
      | true =>
          obtain ⟨roads, roadsFound⟩ := exists_ownRoads tree isOver found isContainer
          have sized :
              ∀ childId ∈ node.children, ∃ box, input.measure limit levels childId = .ok box := by
            intro childId member
            obtain ⟨index, listed⟩ := List.mem_iff_getElem?.mp member
            obtain ⟨child, childFound, _, holds⟩ := tree.child_of_get? found listed
            exact inductionHypothesis childFound (by have := holds.depth_eq; omega)
          obtain ⟨children, childrenFound⟩ := Attempt.exists_mapM_eq_ok sized
          refine ⟨input.sizedContainer node roads children, ?_⟩
          simp only [if_true]
          rw [childrenFound, Attempt.ok_bind, roadsFound]
          rfl

end LayoutInput

end BoxDiagram
