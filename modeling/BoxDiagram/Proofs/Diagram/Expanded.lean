import BoxDiagram.Proofs.Graph.Selected
import BoxDiagram.Proofs.Graph.Ancestors

namespace BoxDiagram

open Outline (Box Connection End Selector)

/-!
# Expanded links

A written link stands for one link from each box of its source to each box of its target.
`Connection.IsExpansion` says so of the finished graph: the ends are the boxes that the
selectors name, and expanding succeeds exactly if both ends name boxes and each pair of
them lies apart.
-/

variable {α : Type}

/-- Neither of two boxes is the other one or lies in it. -/
structure Graph.AreApart (graph : Graph α) (first second : NodeId) : Prop where
  ne : first ≠ second
  not_above : ¬ graph.Above first second
  not_below : ¬ graph.Above second first

/-- The settings, the sources and the targets of a written link, and the links it stands for. -/
structure Outline.Connection.IsExpansion
    (written : Connection)
    (graph : Graph α)
    (root : Box)
    (placed : List (Placed α))
    (settings : LinkSettings)
    (sources targets : List (Node α))
    (links : List Link) : Prop where
  read : LinkSettings.read written.attributes = .ok settings
  isSource : written.source.selector.IsSelection root placed sources
  isTarget : written.target.selector.IsSelection root placed targets
  sources_ne_nil : sources ≠ []
  targets_ne_nil : targets ≠ []
  apart : ∀ source ∈ sources, ∀ target ∈ targets, graph.AreApart source.id target.id
  links_eq :
    links =
      sources.flatMap fun source =>
        targets.map fun target =>
          { source := ⟨source.id, written.arrow.sourceEdge⟩
            target := ⟨target.id, written.arrow.targetEdge⟩
            kind := written.arrow.kind
            markers := ⟨written.arrow.startHead, written.arrow.endHead⟩
            label := settings.label
            tags := settings.tags }

/-- An end of a written link names no box, or one named at an end contains one at the other. -/
def Outline.Connection.IsUnjoinable
    (written : Connection)
    (graph : Graph α)
    (root : Box)
    (placed : List (Placed α)) : Prop :=
  (∀ found ∈ placed, ¬ written.source.selector.Names root placed found) ∨
  (∀ found ∈ placed, ¬ written.target.selector.Names root placed found) ∨
  ∃ source ∈ placed, ∃ target ∈ placed,
    written.source.selector.Names root placed source ∧
      written.target.selector.Names root placed target ∧
        ¬ graph.AreApart source.node.id target.node.id

namespace Outline.Connection.IsExpansion

variable {written : Connection} {graph : Graph α} {root : Box} {placed : List (Placed α)}
variable {settings : LinkSettings} {sources targets : List (Node α)} {links : List Link}

/-- What is expanded can be joined. -/
theorem not_isUnjoinable
    (isExpansion : written.IsExpansion graph root placed settings sources targets links) :
    ¬ written.IsUnjoinable graph root placed := by
  have named {selector : Selector} {nodes : List (Node α)} (nonempty : nodes ≠ [])
      (isSelection : selector.IsSelection root placed nodes) :
      ∃ found ∈ placed, selector.Names root placed found := by
    obtain ⟨node, member⟩ := List.exists_mem_of_ne_nil nodes nonempty
    obtain ⟨found, foundMember, _, isNamed⟩ := (isSelection.mem_iff node).mp member
    exact ⟨found, foundMember, isNamed⟩
  rintro (noSource | noTarget | ⟨source, sourceMember, target, targetMember, isSource, isTarget,
    related⟩)
  · obtain ⟨found, member, isNamed⟩ := named isExpansion.sources_ne_nil isExpansion.isSource
    exact noSource found member isNamed
  · obtain ⟨found, member, isNamed⟩ := named isExpansion.targets_ne_nil isExpansion.isTarget
    exact noTarget found member isNamed
  · exact related (isExpansion.apart source.node
      ((isExpansion.isSource.mem_iff _).mpr ⟨source, sourceMember, rfl, isSource⟩) target.node
      ((isExpansion.isTarget.mem_iff _).mpr ⟨target, targetMember, rfl, isTarget⟩))

/-- Each link of an expansion joins boxes that lie apart. -/
theorem apart_of_mem
    (isExpansion : written.IsExpansion graph root placed settings sources targets links)
    {link : Link}
    (member : link ∈ links) :
    graph.AreApart link.source.node link.target.node := by
  rw [isExpansion.links_eq, List.mem_flatMap] at member
  obtain ⟨source, isSource, member⟩ := member
  obtain ⟨target, isTarget, rfl⟩ := List.mem_map.mp member
  exact isExpansion.apart source isSource target isTarget

end Outline.Connection.IsExpansion

/-- Boxes of a tree lie apart exactly if the lists of their containers say so. -/
theorem Graph.IsTree.areApart_iff
    {graph : Graph α}
    (tree : graph.IsTree)
    {first second : Node α}
    (isFirst : graph.get? first.id = some first)
    (isSecond : graph.get? second.id = some second) :
    graph.AreApart first.id second.id ↔ first.isRelatedTo second = false := by
  simp only [Node.isRelatedTo, Bool.or_eq_false_iff, beq_eq_false_iff_ne,
    List.contains_eq_mem, decide_eq_false_iff_not]
  rw [← tree.above_iff isSecond, ← tree.above_iff isFirst]
  constructor
  · rintro ⟨ne, notAbove, notBelow⟩
    exact ⟨⟨ne, notAbove⟩, notBelow⟩
  · rintro ⟨⟨ne, notAbove⟩, notBelow⟩
    exact ⟨ne, notAbove, notBelow⟩

/-- The boxes of an end are those that its selector selects, if there are any. -/
theorem Outline.End.boxes_eq_ok_iff
    {root : Box}
    {placed : List (Placed α)}
    {written : End}
    {nodes : List (Node α)} :
    written.boxes root placed = .ok nodes ↔
      written.selector.select root placed = nodes ∧ nodes ≠ [] := by
  rw [Outline.End.boxes]
  cases written.selector.select root placed with
  | nil =>
      constructor
      · intro succeeded
        cases succeeded
      · rintro ⟨rfl, nonempty⟩
        exact absurd rfl nonempty
  | cons first rest =>
      constructor
      · intro succeeded
        cases succeeded
        exact ⟨rfl, List.cons_ne_nil first rest⟩
      · rintro ⟨rfl, _⟩
        rfl

/-- A written link gives a link for each pair of boxes of its ends, unless a pair is related. -/
theorem Outline.Connection.links_eq_ok_iff
    {root : Box}
    {placed : List (Placed α)}
    {written : Connection}
    {links : List Link} :
    written.links root placed = .ok links ↔
      ∃ settings sources targets,
        LinkSettings.read written.attributes = .ok settings ∧
          written.source.boxes root placed = .ok sources ∧
            written.target.boxes root placed = .ok targets ∧
              (∀ source ∈ sources, ∀ target ∈ targets, source.isRelatedTo target = false) ∧
                links = sources.flatMap fun source =>
                  targets.map fun target => written.link settings source target := by
  simp only [Outline.Connection.links, Attempt.bind_eq_ok_iff, Attempt.mapM_checked_eq_ok_iff,
    List.forall_mem_flatMap, List.forall_mem_map, List.map_flatMap, List.map_map]
  constructor
  · rintro ⟨settings, read, sources, isSource, targets, isTarget, accepted, linksEq⟩
    exact ⟨settings, sources, targets, read, isSource, isTarget, accepted, linksEq⟩
  · rintro ⟨settings, sources, targets, read, isSource, isTarget, accepted, linksEq⟩
    exact ⟨settings, read, sources, isSource, targets, isTarget, accepted, linksEq⟩

variable [Scalar α]

/-- A written link is expanded exactly to the links for which it stands. -/
theorem Numbered.links_eq_ok_iff
    {document : Document α}
    {root : Box}
    {placed : List (Placed α)}
    (numbered : Numbered document .root NodeId.root root placed)
    {written : Connection}
    {links : List Link} :
    written.links root placed = .ok links ↔
      ∃ settings sources targets,
        written.IsExpansion ⟨(placed.map (·.node)).toArray⟩ root placed settings sources targets
          links := by
  have isNode {selector : Selector} {node : Node α}
      (member : node ∈ selector.select root placed) :
      Graph.get? ⟨(placed.map (·.node)).toArray⟩ node.id = some node := by
    obtain ⟨found, foundMember, rfl⟩ := Selector.exists_placed_of_mem_select member
    exact numbered.get?_of_mem foundMember
  rw [Connection.links_eq_ok_iff]
  constructor
  · rintro ⟨settings, sources, targets, read, sourcesFound, targetsFound, accepted, linksEq⟩
    obtain ⟨rfl, someSource⟩ := End.boxes_eq_ok_iff.mp sourcesFound
    obtain ⟨rfl, someTarget⟩ := End.boxes_eq_ok_iff.mp targetsFound
    refine ⟨settings, _, _, read, numbered.isSelection_select _, numbered.isSelection_select _,
      someSource, someTarget, ?_, linksEq⟩
    intro source isSource target isTarget
    rw [numbered.isTree.areApart_iff (isNode isSource) (isNode isTarget)]
    exact accepted source isSource target isTarget
  · rintro ⟨settings, sources, targets, isExpansion⟩
    obtain rfl := isExpansion.isSource.unique (numbered.isSelection_select _)
    obtain rfl := isExpansion.isTarget.unique (numbered.isSelection_select _)
    refine ⟨settings, _, _, isExpansion.read,
      End.boxes_eq_ok_iff.mpr ⟨rfl, isExpansion.sources_ne_nil⟩,
      End.boxes_eq_ok_iff.mpr ⟨rfl, isExpansion.targets_ne_nil⟩, ?_, isExpansion.links_eq⟩
    intro source isSource target isTarget
    exact (numbered.isTree.areApart_iff (isNode isSource) (isNode isTarget)).mp
      (isExpansion.apart source isSource target isTarget)

namespace Diagram

/--
The links of a resolved diagram are those for which the written links stand, in the order
of these, and join boxes that lie apart.  A written link with an end that names no box, or
with two ends of which one contains the other, leaves no diagram.
-/
theorem expands_of_ofOutline
    (outline : Outline) :
    (∀ diagram : Diagram α, ofOutline outline = .ok diagram →
      ∃ placed groups,
        numberBox diagram.document .root NodeId.root outline.root = .ok placed ∧
          diagram.graph.IsNumbering outline.root placed ∧
            diagram.links = groups.flatten ∧
              List.Forall₂
                (fun written links => ∃ settings sources targets,
                  written.IsExpansion diagram.graph outline.root placed settings sources targets
                    links)
                outline.connections groups ∧
                ∀ link ∈ diagram.links,
                  diagram.graph.AreApart link.source.node link.target.node) ∧
    ∀ (document : Document α) (placed : List (Placed α)) (graph : Graph α),
      Document.read outline.attributes = .ok document →
        numberBox document .root NodeId.root outline.root = .ok placed →
          Graph.ofNodes (placed.map (·.node)) = .ok graph →
            (∃ written ∈ outline.connections, written.IsUnjoinable graph outline.root placed) →
              ∃ diagnostic, (ofOutline outline : Except _ (Diagram α)) = .error diagnostic := by
  refine ⟨?expanded, ?refused⟩
  case expanded =>
    intro diagram succeeded
    obtain ⟨placed, groups, _, numbered, graphEq, linked, linksEq⟩ :=
      exists_placed_of_ofOutline succeeded
    have isNumbered := Numbered.of_numberBox numbered
    have expanded := Attempt.mapM_eq_ok_iff.mp linked
    simp only [isNumbered.links_eq_ok_iff, ← graphEq] at expanded
    refine ⟨placed, groups, numbered, graphEq ▸ isNumbered.isNumbering, linksEq, expanded, ?_⟩
    intro link member
    rw [linksEq] at member
    obtain ⟨group, groupMember, member⟩ := List.mem_flatten.mp member
    obtain ⟨written, _, expansion⟩ := Attempt.exists_of_mem_mapM linked groupMember
    obtain ⟨_, _, _, isExpansion⟩ := isNumbered.links_eq_ok_iff.mp expansion
    rw [graphEq]
    exact isExpansion.apart_of_mem member
  case refused =>
    rintro document placed graph read numbered accepted ⟨written, member, unjoinable⟩
    cases outcome : (ofOutline outline : Except _ (Diagram α)) with
    | error diagnostic =>
        exact ⟨diagnostic, rfl⟩
    | ok diagram =>
        obtain ⟨others, groups, otherRead, otherNumbered, _, linked, _⟩ :=
          exists_placed_of_ofOutline outcome
        obtain rfl := Except.ok.inj (read.symm.trans otherRead)
        obtain rfl := Except.ok.inj (numbered.symm.trans otherNumbered)
        obtain rfl := Graph.nodes_of_ofNodes accepted
        obtain ⟨_, _, expansion⟩ := Attempt.exists_result_of_mem linked member
        obtain ⟨_, _, _, isExpansion⟩ :=
          (Numbered.of_numberBox numbered).links_eq_ok_iff.mp expansion
        exact absurd unjoinable isExpansion.not_isUnjoinable

/-- A link from each box with a tag, and one from a box to itself. -/
theorem exists_expands_of_ofOutline :
    (∃ (outline : Outline) (diagram : Diagram Rat),
      Outline.read "[a.b tag=x]\n(c tag=x)\n(d) -- ()\n{$x ->1 d label=l}" =
          .ok outline ∧
        ofOutline outline = .ok diagram ∧
          diagram.links.map (fun link => (link.source.node, link.target.node, link.label)) =
            [(5, 3, none), (2, 5, some "l"), (4, 5, some "l")] ∧
            ∀ link ∈ diagram.links,
              diagram.graph.AreApart link.source.node link.target.node) ∧
    ∃ (outline : Outline) (diagnostic : Diagnostic),
      Outline.read "(a)\n{a -> a}" = .ok outline ∧
        (ofOutline outline : Except _ (Diagram Rat)) = .error diagnostic := by
  refine ⟨?expanded, ?refused⟩
  case expanded =>
    have linked :
        ((Outline.read
            "[a.b tag=x]\n(c tag=x)\n(d) -- ()\n{$x ->1 d label=l}").toOption.bind
          fun outline => (ofOutline outline : Except _ (Diagram Rat)).toOption.map fun diagram =>
            diagram.links.map fun link => (link.source.node, link.target.node, link.label)) =
          some [(5, 3, none), (2, 5, some "l"), (4, 5, some "l")] := by
      decide +kernel
    obtain ⟨outline, isRead, linked⟩ := Option.bind_eq_some_iff.mp linked
    obtain ⟨diagram, resolved, linked⟩ := Option.map_eq_some_iff.mp linked
    have resolved := Attempt.toOption_eq_some_iff.mp resolved
    obtain ⟨_, _, _, _, _, _, apart⟩ := (expands_of_ofOutline outline).1 diagram resolved
    exact ⟨outline, diagram, Attempt.toOption_eq_some_iff.mp isRead, resolved, linked, apart⟩
  case refused =>
    have facts :
        ((Outline.read "(a)\n{a -> a}").toOption.bind fun outline =>
          (Document.read outline.attributes : Except _ (Document Rat)).toOption.bind fun document =>
            (numberBox document .root NodeId.root outline.root).toOption.map fun placed =>
              (outline.connections.map fun written =>
                  (written.source.selector, written.target.selector),
                outline.root.names? [0], placed.map (·.address))) =
          some ([(.path [] ["a"], .path [] ["a"])], some ["a"], [[], [0]]) := by
      decide +kernel
    obtain ⟨outline, isRead, facts⟩ := Option.bind_eq_some_iff.mp facts
    obtain ⟨document, documentRead, facts⟩ := Option.bind_eq_some_iff.mp facts
    obtain ⟨placed, numbered, facts⟩ := Option.map_eq_some_iff.mp facts
    have numbered := Attempt.toOption_eq_some_iff.mp numbered
    have accepted := (Numbered.of_numberBox numbered).ofNodes_eq
    obtain ⟨selectors, along, addresses⟩ : _ ∧ _ ∧ _ := by simpa only [Prod.mk.injEq] using facts
    obtain ⟨written, isOnly, selectors⟩ := List.map_eq_singleton_iff.mp selectors
    obtain ⟨isSource, isTarget⟩ := Prod.mk.inj selectors
    obtain ⟨found, member, isAddress⟩ : ∃ found ∈ placed, found.address = [0] :=
      List.mem_map.mp (addresses ▸ by simp)
    have isNamed : (Selector.path [] ["a"]).Names outline.root placed found :=
      ⟨outline.root, [0], Box.at?_nil _, along, isAddress⟩
    obtain ⟨diagnostic, failed⟩ := (expands_of_ofOutline outline).2 document placed _
      (Attempt.toOption_eq_some_iff.mp documentRead) numbered accepted
      ⟨written, by simp [isOnly], .inr (.inr ⟨found, member, found, member, isSource ▸ isNamed,
        isTarget ▸ isNamed, fun apart => apart.ne rfl⟩)⟩
    exact ⟨outline, diagnostic, Attempt.toOption_eq_some_iff.mp isRead, failed⟩

end Diagram

end BoxDiagram
