import BoxDiagram.Diagram.Resolve
import BoxDiagram.Proofs.Graph.Tree

namespace BoxDiagram

open Outline (Box Connection End Selector)

/-!
# Resolved diagrams

A diagram that comes of an outline has a tree of boxes, and each of its links
joins two boxes of the tree neither of which contains the other.
-/

variable {α : Type}

/-- The boxes of a diagram form a tree, and its links join boxes that lie apart. -/
structure Diagram.IsResolved (diagram : Diagram α) : Prop where
  tree : diagram.graph.IsTree
  joined :
    ∀ link ∈ diagram.links,
      ∃ source target,
        diagram.graph.get? link.source.node = some source ∧
          diagram.graph.get? link.target.node = some target ∧
            source.isRelatedTo target = false

/-- A list of boxes that is accepted as a graph is the list of its nodes. -/
theorem Graph.nodes_of_ofNodes
    {nodes : List (Node α)}
    {graph : Graph α}
    (accepted : Graph.ofNodes nodes = .ok graph) :
    graph = ⟨nodes.toArray⟩ := by
  cases nodes with
  | nil =>
      cases accepted
  | cons root rest =>
      simp only [Graph.ofNodes] at accepted
      split at accepted
      · cases accepted
      · split at accepted
        · cases accepted
        · exact (Except.ok.inj accepted).symm

/-- A selector names boxes among those that were numbered. -/
theorem Outline.Selector.exists_placed_of_mem_select
    {root : Box}
    {placed : List (Placed α)}
    {selector : Selector}
    {node : Node α}
    (member : node ∈ selector.select root placed) :
    ∃ found ∈ placed, found.node = node := by
  have of_atAddress :
      ∀ {wanted : Outline.Address}, Selector.select.atAddress placed wanted = some node →
        ∃ found ∈ placed, found.node = node := by
    intro wanted isNode
    obtain ⟨found, isFound, same⟩ := Option.map_eq_some_iff.mp isNode
    exact ⟨found, List.mem_of_find?_eq_some isFound, same⟩
  cases selector with
  | path base segments =>
      rw [Selector.select, Option.mem_toList] at member
      obtain ⟨address, _, isNode⟩ := Option.bind_eq_some_iff.mp member
      exact of_atAddress isNode
  | name wanted =>
      simp only [Selector.select] at member
      split at member
      · simp at member
      · rw [Option.mem_toList] at member
        obtain ⟨found, isFound, same⟩ := Option.map_eq_some_iff.mp member
        exact ⟨found, List.mem_of_find?_eq_some isFound, same⟩
  | tag wanted =>
      obtain ⟨found, isFound, same⟩ := List.mem_map.mp member
      exact ⟨found, List.mem_of_mem_filter isFound, same⟩
  | address wanted =>
      rw [Selector.select, Option.mem_toList] at member
      exact of_atAddress member

/-- The boxes of an end are those that its selector names. -/
theorem Outline.End.boxes_eq_select
    {root : Box}
    {placed : List (Placed α)}
    {written : End}
    {nodes : List (Node α)}
    (succeeded : written.boxes root placed = .ok nodes) :
    nodes = written.selector.select root placed := by
  rw [Outline.End.boxes] at succeeded
  split at succeeded
  · cases succeeded
  · exact (Except.ok.inj succeeded).symm

/-- Each link of a connection joins two numbered boxes that lie apart. -/
theorem Outline.Connection.exists_ends_of_mem_links
    {root : Box}
    {placed : List (Placed α)}
    {written : Connection}
    {links : List Link}
    (succeeded : written.links root placed = .ok links)
    {link : Link}
    (member : link ∈ links) :
    ∃ source ∈ placed, ∃ target ∈ placed,
      link.source.node = source.node.id ∧ link.target.node = target.node.id ∧
        source.node.isRelatedTo target.node = false := by
  rw [Outline.Connection.links] at succeeded
  obtain ⟨settings, _, succeeded⟩ := Attempt.bind_eq_ok_iff.mp succeeded
  obtain ⟨sources, sourcesFound, succeeded⟩ := Attempt.bind_eq_ok_iff.mp succeeded
  obtain ⟨targets, targetsFound, succeeded⟩ := Attempt.bind_eq_ok_iff.mp succeeded
  obtain ⟨⟨source, target⟩, paired, isLink⟩ := Attempt.exists_of_mem_mapM succeeded member
  obtain ⟨other, sourceMember, pairedHere⟩ := List.mem_flatMap.mp paired
  obtain ⟨targetHere, targetMember, same⟩ := List.mem_map.mp pairedHere
  cases same
  rw [Outline.End.boxes_eq_select sourcesFound] at sourceMember
  rw [Outline.End.boxes_eq_select targetsFound] at targetMember
  obtain ⟨sourcePlaced, sourcePlacedMember, rfl⟩ :=
    Selector.exists_placed_of_mem_select sourceMember
  obtain ⟨targetPlaced, targetPlacedMember, rfl⟩ :=
    Selector.exists_placed_of_mem_select targetMember
  cases related : sourcePlaced.node.isRelatedTo targetPlaced.node with
  | true =>
      simp [related] at isLink
  | false =>
      simp only [related, Bool.false_eq_true, if_false] at isLink
      cases isLink
      exact ⟨sourcePlaced, sourcePlacedMember, targetPlaced, targetPlacedMember, rfl, rfl,
        related⟩

/-- What the diagram of an outline is made of. -/
theorem Diagram.exists_placed_of_ofOutline
    [Scalar α]
    {outline : Outline}
    {diagram : Diagram α}
    (succeeded : Diagram.ofOutline outline = .ok diagram) :
    ∃ placed groups,
      Document.read outline.attributes = .ok diagram.document ∧
        numberBox diagram.document .root NodeId.root outline.root = .ok placed ∧
          diagram.graph = ⟨(placed.map (·.node)).toArray⟩ ∧
            outline.connections.mapM (·.links outline.root placed) = .ok groups ∧
              diagram.links = groups.flatten := by
  rw [Diagram.ofOutline] at succeeded
  obtain ⟨document, documentRead, succeeded⟩ := Attempt.bind_eq_ok_iff.mp succeeded
  obtain ⟨placed, numbered, succeeded⟩ := Attempt.bind_eq_ok_iff.mp succeeded
  cases accepted : Graph.ofNodes (placed.map (·.node)) with
  | error error =>
      rw [accepted] at succeeded
      cases succeeded
  | ok graph =>
      rw [accepted] at succeeded
      obtain ⟨groups, linked, same⟩ := Attempt.bind_eq_ok_iff.mp succeeded
      cases same
      exact ⟨placed, groups, documentRead, numbered, Graph.nodes_of_ofNodes accepted, linked, rfl⟩

/-- The boxes of the diagram of an outline are numbered as the relation describes. -/
theorem Diagram.exists_numbered_of_ofOutline
    [Scalar α]
    {outline : Outline}
    {diagram : Diagram α}
    (succeeded : Diagram.ofOutline outline = .ok diagram) :
    ∃ placed groups,
      Document.read outline.attributes = .ok diagram.document ∧
        Numbered diagram.document .root NodeId.root outline.root placed ∧
          diagram.graph = ⟨(placed.map (·.node)).toArray⟩ ∧
            outline.connections.mapM (·.links outline.root placed) = .ok groups ∧
              diagram.links = groups.flatten := by
  obtain ⟨placed, groups, documentRead, numbered, facts⟩ :=
    Diagram.exists_placed_of_ofOutline succeeded
  exact ⟨placed, groups, documentRead, .of_numberBox numbered, facts⟩

/-- A diagram that comes of an outline is resolved. -/
theorem Diagram.isResolved_of_ofOutline
    [Scalar α]
    {outline : Outline}
    {diagram : Diagram α}
    (succeeded : Diagram.ofOutline outline = .ok diagram) :
    diagram.IsResolved := by
  obtain ⟨placed, groups, _, numbered, graphEq, linked, linksEq⟩ :=
    Diagram.exists_numbered_of_ofOutline succeeded
  have get?_of_mem :
      ∀ {found : Placed α}, found ∈ placed →
        diagram.graph.get? found.node.id = some found.node := by
    intro found member
    simp [graphEq, Graph.get?, numbered.getElem?_id_of_mem member]
  constructor
  case tree =>
    rw [graphEq]
    exact numbered.isTree
  case joined =>
    intro link member
    rw [linksEq] at member
    obtain ⟨group, groupMember, linkMember⟩ := List.mem_flatten.mp member
    obtain ⟨written, _, expanded⟩ := Attempt.exists_of_mem_mapM linked groupMember
    obtain ⟨source, sourceMember, target, targetMember, sourceEq, targetEq, apart⟩ :=
      Outline.Connection.exists_ends_of_mem_links expanded linkMember
    refine ⟨source.node, target.node, ?_, ?_, apart⟩
    · rw [sourceEq]
      exact get?_of_mem sourceMember
    · rw [targetEq]
      exact get?_of_mem targetMember

end BoxDiagram
