import BoxDiagram.Number.Exact
import BoxDiagram.Outline.Reader
import BoxDiagram.Proofs.Graph.Resolved
import BoxDiagram.Proofs.Route.Ends
import BoxDiagram.Proofs.Route.Stub
import Mathlib.Data.List.Nodup
import Mathlib.Data.List.Perm.Basic

namespace BoxDiagram

/-!
# Stubs are shortest climbs

For each final direction that a climb out of a box can have there is one stub, and
no climb is shorter.  What the search remembers of earlier climbs cannot be told
from the stubs, and the order in which it tries directions only decides between
climbs with equally many roads.
-/

variable {α : Type} {graph : Graph α}

namespace Climb

/--
Stubs of a box, at most one for each final direction: there is one wherever a climb
can end, and it is a shortest one of these climbs.
-/
structure AreShortestStubs
    (graph : Graph α)
    (top : Nat)
    (node : Node α)
    (allowed : List Direction)
    (found : List Stub) : Prop where
  inOrder : (found.map (·.last)).Sublist Direction.all
  exists_iff :
    ∀ last, (∃ stub ∈ found, stub.last = last) ↔
      ∃ first ∈ allowed, ∃ roads, graph.Climbs top node first last roads
  climbs :
    ∀ stub ∈ found, stub.first ∈ allowed ∧ graph.Climbs top node stub.first stub.last stub.roads
  shortest :
    ∀ stub ∈ found, ∀ first ∈ allowed, ∀ roads,
      graph.Climbs top node first stub.last roads → stub.roads.length ≤ roads.length

variable {top : Nat} {node : Node α} {allowed order : List Direction} {found others : List Stub}

/-- There is one stub for each last direction. -/
theorem AreStubs.eq_of_last_eq
    (areStubs : AreStubs graph top node allowed found)
    {stub other : Stub}
    (member : stub ∈ found)
    (otherMember : other ∈ found)
    (same : stub.last = other.last) :
    stub = other :=
  List.inj_on_of_nodup_map (areStubs.inOrder.nodup (by decide)) member otherMember same

/-- Stubs that are kept are the shortest ones. -/
theorem AreStubs.areShortest
    (areStubs : AreStubs graph top node allowed found) :
    AreShortestStubs graph top node allowed found where
  inOrder := areStubs.inOrder
  exists_iff last := by
    constructor
    · rintro ⟨stub, member, rfl⟩
      obtain ⟨isAllowed, climbs⟩ := areStubs.climbs stub member
      exact ⟨stub.first, isAllowed, stub.roads, climbs⟩
    · rintro ⟨first, isAllowed, roads, climbs⟩
      obtain ⟨stub, member, sameLast, _⟩ := areStubs.shortest first isAllowed last roads climbs
      exact ⟨stub, member, sameLast⟩
  climbs := areStubs.climbs
  shortest := by
    intro stub member first isAllowed roads climbs
    obtain ⟨other, otherMember, sameLast, shorter⟩ :=
      areStubs.shortest first isAllowed stub.last roads climbs
    rw [areStubs.eq_of_last_eq member otherMember sameLast.symm]
    exact shorter

/-- The order in which exits are tried does not matter for which stubs are shortest. -/
theorem AreShortestStubs.of_perm
    (areShortest : AreShortestStubs graph top node order found)
    (perm : order.Perm allowed) :
    AreShortestStubs graph top node allowed found where
  inOrder := areShortest.inOrder
  exists_iff last := by
    rw [areShortest.exists_iff]
    simp only [perm.mem_iff]
  climbs stub member :=
    ⟨perm.mem_iff.mp (areShortest.climbs stub member).1, (areShortest.climbs stub member).2⟩
  shortest stub member first isAllowed :=
    areShortest.shortest stub member first (perm.mem_iff.mpr isAllowed)

/-- Two lists of shortest stubs end in the same directions, after equally many roads. -/
theorem AreShortestStubs.sameUpToTies
    (areShortest : AreShortestStubs graph top node allowed found)
    (othersShortest : AreShortestStubs graph top node allowed others) :
    found.map (fun stub => (stub.last, stub.roads.length)) =
      others.map fun stub => (stub.last, stub.roads.length) := by
  have mem_iff :
      ∀ last, last ∈ found.map (·.last) ↔ last ∈ others.map (·.last) := by
    intro last
    rw [List.mem_map, List.mem_map, areShortest.exists_iff, othersShortest.exists_iff]
  have nodupAll : Direction.all.Nodup := by decide
  have sameLasts : found.map (·.last) = others.map (·.last) :=
    (nodupAll.perm_iff_eq_of_sublist areShortest.inOrder othersShortest.inOrder).mp
      ((List.perm_ext_iff_of_nodup (areShortest.inOrder.nodup nodupAll)
        (othersShortest.inOrder.nodup nodupAll)).mpr mem_iff)
  have sameCount : found.length = others.length := by
    simpa using congrArg List.length sameLasts
  refine List.ext_getElem (by simpa using sameCount) fun position inside otherInside => ?_
  rw [List.length_map] at inside otherInside
  have sameLast : found[position].last = others[position].last := by
    have := List.getElem_of_eq sameLasts (i := position) (by simpa using inside)
    simpa using this
  obtain ⟨isAllowed, climbs⟩ := areShortest.climbs _ (List.getElem_mem inside)
  obtain ⟨otherAllowed, otherClimbs⟩ := othersShortest.climbs _ (List.getElem_mem otherInside)
  have atMost := areShortest.shortest _ (List.getElem_mem inside) _ otherAllowed _
    (sameLast ▸ otherClimbs)
  have atLeast := othersShortest.shortest _ (List.getElem_mem otherInside) _ isAllowed _
    (sameLast ▸ climbs)
  simp only [List.getElem_map, Prod.mk.injEq]
  exact ⟨sameLast, by omega⟩

variable {frame : Frame α} {habit : Habit} {common : NodeId}

/-- What climbs of one habit out of boxes in a container have left in the memory. -/
inductive Memory.IsLeft (frame : Frame α) (common : NodeId) (habit : Habit) : Memory → Prop where
  | empty : IsLeft frame common habit []
  | after
      {memory remembered : Memory}
      {id : NodeId}
      {exits : List Direction}
      {found : List Stub}
      (earlier : IsLeft frame common habit memory)
      (isAbove : frame.graph.Above common id)
      (succeeded : habit.stubs frame id exits memory = .ok (found, remembered)) :
      IsLeft frame common habit remembered

/-- What is inside of a container is deeper. -/
theorem deep_of_above
    (tree : frame.graph.IsTree)
    {id : NodeId}
    {container : Node α}
    (isNode : frame.graph.get? id = some node)
    (isContainer : frame.graph.get? common = some container)
    (isAbove : frame.graph.Above common id) :
    container.depth < node.depth := by
  obtain ⟨level, isOuter⟩ :=
    LinkEnds.exists_isOuter_of_above tree isNode isContainer isAbove
  have := isOuter.depth_eq
  omega

/-- What earlier links left in the memory is right. -/
theorem Memory.IsLeft.isRight
    (tree : frame.graph.IsTree)
    {container : Node α}
    {memory : Memory}
    (isContainer : frame.graph.get? common = some container)
    (isTop : frame.top = container.depth)
    (isLeft : memory.IsLeft frame common habit) :
    memory.IsRight frame habit.sides := by
  induction isLeft with
  | empty =>
      exact Memory.isRight_nil
  | after earlier isAbove succeeded inductionHypothesis =>
      obtain ⟨parent, _, node, isNode, _⟩ := Relation.TransGen.tail'_iff.mp isAbove
      have deep := deep_of_above tree isNode isContainer isAbove
      choose ways explored using exists_explored tree habit.sides isNode (isTop ▸ deep)
      obtain ⟨_, rememberedRight⟩ :=
        Habit.finds_stubs tree (habit.maintains_isRight frame) isNode explored
          inductionHypothesis succeeded
      exact rememberedRight

/-- In every habit the shortest stubs are found, and the same ones if nothing is remembered. -/
theorem Habit.exists_shortestStubs
    (tree : frame.graph.IsTree)
    {id : NodeId}
    {memory : Memory}
    (isNode : frame.graph.get? id = some node)
    (deep : frame.top < node.depth)
    (enough : node.depth ≤ frame.limit)
    (fair : habit.sides.IsFair)
    (exits : List Direction)
    (isRight : memory.IsRight frame habit.sides) :
    ∃ found remembered,
      habit.stubs frame id exits memory = .ok (found, remembered) ∧
        habit.forgetful.stubs frame id exits [] = .ok (found, []) ∧
          AreShortestStubs frame.graph frame.top node exits found := by
  choose ways explored using exists_explored tree habit.sides isNode deep
  obtain ⟨⟨found, remembered⟩, succeeded⟩ :=
    habit.exists_stubs tree exits memory isNode deep (by omega)
  obtain ⟨⟨others, kept⟩, otherSucceeded⟩ :=
    habit.forgetful.exists_stubs tree exits [] isNode deep (by omega)
  obtain ⟨rfl, _⟩ :=
    Habit.finds_stubs tree (habit.maintains_isRight frame) isNode explored isRight succeeded
  obtain ⟨rfl, rfl⟩ :=
    Habit.finds_stubs tree (habit.forgetful_maintains_nil frame) isNode explored rfl
      otherSucceeded
  have areStubs :=
    areStubs_of_areLeastStubs (.bestStubs fun first (_ : first ∈ exits) =>
      (explored first).areLeast fair)
  exact ⟨_, remembered, succeeded, otherSucceeded, areStubs.areShortest⟩

/--
The stubs of a box of a resolved diagram are shortest climbs.  They are the same
with and without a memory, and up to ties in every order of the allowed directions
and of the turns.
-/
theorem stubs_are_shortest
    [Scalar α]
    {outline : Outline}
    {diagram : Diagram α}
    (resolved : Diagram.ofOutline outline = .ok diagram)
    {endpoint : Endpoint}
    {container : Node α}
    (isNode : diagram.graph.get? endpoint.node = some node)
    (isContainer : diagram.graph.get? common = some container)
    (isAbove : diagram.graph.Above common endpoint.node)
    (isGraph : frame.graph = diagram.graph)
    (isTop : frame.top = container.depth)
    (enough : node.depth ≤ frame.limit)
    {memory : Memory}
    (isLeft : memory.IsLeft frame common .usual) :
    ∃ allowed found remembered,
      diagram.graph.allowedExits endpoint.node endpoint.edge = .ok allowed ∧
        stubs frame endpoint memory = .ok (found, remembered) ∧
          AreShortestStubs diagram.graph container.depth node allowed found ∧
            Habit.usual.forgetful.stubs frame endpoint.node allowed [] = .ok (found, []) ∧
              ∀ (habit : Habit) (order : List Direction) (left : Memory),
                habit.sides.IsFair → order.Perm allowed → left.IsLeft frame common habit →
                  ∃ others kept,
                    habit.stubs frame endpoint.node order left = .ok (others, kept) ∧
                      habit.forgetful.stubs frame endpoint.node order [] = .ok (others, []) ∧
                        AreShortestStubs diagram.graph container.depth node allowed others ∧
                          others.map (fun stub => (stub.last, stub.roads.length)) =
                            found.map fun stub => (stub.last, stub.roads.length) := by
  have tree := (Diagram.isResolved_of_ofOutline resolved).tree
  rw [← isGraph] at isNode isContainer isAbove tree ⊢
  have deep := deep_of_above tree isNode isContainer isAbove
  rw [← isTop] at deep ⊢
  obtain ⟨allowed, allows, _⟩ := LinkEnds.exists_allowedExits isNode
  obtain ⟨found, remembered, succeeded, forgotten, areShortest⟩ :=
    Habit.exists_shortestStubs tree isNode deep enough Habit.isFair_usual allowed
      (isLeft.isRight tree isContainer isTop)
  refine ⟨allowed, found, remembered, allows, ?_, areShortest, forgotten, ?_⟩
  · rw [Habit.stubs_usual endpoint memory allows]
    exact succeeded
  · intro habit order left fair perm habitLeft
    obtain ⟨others, kept, otherSucceeded, otherForgotten, othersShortest⟩ :=
      Habit.exists_shortestStubs tree isNode deep enough fair order
        (habitLeft.isRight tree isContainer isTop)
    have othersAllowed := othersShortest.of_perm perm
    exact ⟨others, kept, otherSucceeded, otherForgotten, othersAllowed,
      othersAllowed.sameUpToTies areShortest⟩

/-- The way out between two boxes of a row turns up or down, whatever is remembered already. -/
theorem exists_shortest_stubs :
    ∃ (outline : Outline) (diagram : Diagram Rat) (node : Node Rat) (frame : Frame Rat)
      (left : Memory) (allowed : List Direction) (found : List Stub) (remembered : Memory),
      Diagram.ofOutline outline = .ok diagram ∧ diagram.graph.get? 2 = some node ∧
        left.IsLeft frame NodeId.root .usual ∧ left.length = 6 ∧
          stubs frame ⟨2, some .main⟩ left = .ok (found, remembered) ∧
            diagram.graph.allowedExits 2 (some .main) = .ok allowed ∧
              found.map (fun stub => (stub.last, stub.roads)) =
                  [(.down, [.main 1 1, .main 0 1]), (.up, [.main 1 1, .main 0 0])] ∧
                AreShortestStubs diagram.graph 0 node allowed found := by
  have reads :
      ((Outline.read "[g]\n(.a)\n(.b)\n---\n(c)").toOption.bind fun outline =>
        (Diagram.ofOutline outline : Except _ (Diagram Rat)).toOption.bind fun diagram =>
          (diagram.graph.get? 2).bind fun node => (diagram.graph.get? 0).bind fun root =>
            (stubs ⟨diagram.graph, 0, 2⟩ ⟨2, none⟩ []).toOption.bind fun first =>
              (stubs ⟨diagram.graph, 0, 2⟩ ⟨2, some .main⟩ first.2).toOption.map fun second =>
                (node.ancestors, [root.depth, first.2.length],
                  second.1.map fun stub => (stub.last, stub.roads))) =
        some ([0, 1], [0, 6],
          [(.down, [.main 1 1, .main 0 1]), (.up, [.main 1 1, .main 0 0])]) := by
    decide +kernel
  obtain ⟨outline, _, reads⟩ := Option.bind_eq_some_iff.mp reads
  obtain ⟨diagram, resolved, reads⟩ := Option.bind_eq_some_iff.mp reads
  obtain ⟨node, isNode, reads⟩ := Option.bind_eq_some_iff.mp reads
  obtain ⟨root, isRoot, reads⟩ := Option.bind_eq_some_iff.mp reads
  obtain ⟨⟨earlier, left⟩, first, reads⟩ := Option.bind_eq_some_iff.mp reads
  obtain ⟨⟨found, remembered⟩, second, facts⟩ := Option.map_eq_some_iff.mp reads
  have resolved := Attempt.toOption_eq_some_iff.mp resolved
  simp only [Prod.mk.injEq, Attempt.toOption_eq_some_iff] at first second facts
  obtain ⟨isAncestors, counts, roads⟩ := facts
  obtain ⟨isTop, counted⟩ : root.depth = 0 ∧ left.length = 6 := by simpa using counts
  have isDepth : node.depth = 2 := by rw [Node.depth, isAncestors]; rfl
  have tree := (Diagram.isResolved_of_ofOutline resolved).tree
  have isAbove : diagram.graph.Above NodeId.root 2 :=
    (tree.above_iff isNode).mpr (by rw [isAncestors]; decide)
  have isLeft : left.IsLeft ⟨diagram.graph, 0, 2⟩ NodeId.root .usual := by
    rw [Habit.stubs_usual ⟨2, none⟩ [] rfl] at first
    exact .after .empty isAbove first
  obtain ⟨allowed, others, kept, allowedEq, succeeded, areShortest, _⟩ :=
    stubs_are_shortest resolved
      (show diagram.graph.get? (Endpoint.mk 2 (some .main)).node = some node from isNode)
      isRoot isAbove rfl isTop.symm (Nat.le_of_eq isDepth) isLeft
  cases second.symm.trans succeeded
  rw [isTop] at areShortest
  exact ⟨outline, diagram, node, _, left, allowed, found, remembered, resolved, isNode, isLeft,
    counted, second, allowedEq, roads, areShortest⟩

end Climb

end BoxDiagram
