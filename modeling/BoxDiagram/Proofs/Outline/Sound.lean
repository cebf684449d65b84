import BoxDiagram.Proofs.Graph.Addresses
import BoxDiagram.Proofs.Outline.Places

namespace BoxDiagram

/-!
# Texts give sound outlines

The tree of every state that the reader reaches is sound, so is that of the
outline it gives back, and neither reading nor resolving ever finds the tree
broken: the open container is always there, and siblings have different names.
-/

open Outline (Box Reader)

namespace Outline

variable {α : Type} [Scalar α]

/--
From the start of a text the reader reaches only sound states, each with a tree into which
the earlier ones have grown.  It never loses the open container, and the outline that it
gives back has no name twice in one box.
-/
theorem isSound_of_source
    (source : String) :
    (∀ reader : Reader,
      (Reader.start (Text.normalizeNewlines source.toList)).Reaches reader →
        reader.IsSound ∧
          ∀ later : Reader, reader.Reaches later →
            reader.outline.root.Grows later.outline.root) ∧
    Outline.read source ≠ .error lostContainer ∧
    ∀ outline, Outline.read source = .ok outline →
      (∃ reader : Reader,
        (Reader.start (Text.normalizeNewlines source.toList)).Reaches reader ∧
          reader.outline = outline) ∧
      outline.IsSound ∧
      ∀ diagnostic,
        (Diagram.ofOutline outline : Except Diagnostic (Diagram α)) = .error diagnostic →
          diagnostic.code ≠ some .duplicateName := by
  have reached (reader : Reader)
      (reaches : (Reader.start (Text.normalizeNewlines source.toList)).Reaches reader) :
      reader.IsSound :=
    (Reader.isSound_of_reaches (Reader.isSound_start _) reaches).1
  refine ⟨?states, ?neverLost, ?outlines⟩
  case states =>
    intro reader reaches
    refine ⟨reached reader reaches, ?_⟩
    intro later reachesLater
    exact (Reader.isSound_of_reaches (reached reader reaches) reachesLater).2
  case neverLost =>
    intro lost
    exact Diagnostic.not_isLocated_error _ _ ((read_failsOnly source).of_eq lost)
  case outlines =>
    intro outline succeeded
    obtain ⟨reader, reaches, rfl⟩ := reaches_of_read succeeded
    have sound := (reached reader reaches).outline
    refine ⟨⟨reader, reaches, rfl⟩, sound, ?_⟩
    intro diagnostic failed isDuplicate
    exact ((Diagram.ofOutline_failsOnly _).of_eq failed).duplicate isDuplicate
      sound.boxes.namesDiffer

/-- A unit that was only mentioned, and a link into it from the box of a later construct. -/
theorem exists_isSound_of_source :
    ∃ outline, Outline.read "[a.b]\n---\n(.c) -> (a.d)" = .ok outline ∧ outline.IsSound ∧
      (outline.root.at? [0]).map (·.implicit) = some true ∧
        outline.connections.map (fun connection =>
          (connection.source.selector, connection.target.selector)) =
            [(.address [1], .address [0, 1])] := by
  have read :
      (Outline.read "[a.b]\n---\n(.c) -> (a.d)").toOption.map (fun outline =>
          ((outline.root.at? [0]).map (·.implicit),
            outline.connections.map fun connection =>
              (connection.source.selector, connection.target.selector))) =
        some (some true, [(.address [1], .address [0, 1])]) := by
    decide +kernel
  obtain ⟨outline, isRead, facts⟩ := Option.map_eq_some_iff.mp read
  have isRead := Attempt.toOption_eq_some_iff.mp isRead
  obtain ⟨mentioned, ends⟩ := Prod.mk.inj facts
  obtain ⟨_, sound, _⟩ := (@isSound_of_source Rat _ _).2.2 outline isRead
  exact ⟨outline, isRead, sound, mentioned, ends⟩

end Outline

end BoxDiagram
