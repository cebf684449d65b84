import BoxDiagram.Diagram.Resolve
import BoxDiagram.Proofs.Attempt
import BoxDiagram.Proofs.Outline.Boxes

namespace BoxDiagram

open Attempt (FailsOnly)
open Outline (Attribute Box Connection End)

/-!
# Located diagnostics

An error about a text has a code, a position and a span of the mistake.  Reading
attributes, numbering boxes and expanding links fail with such errors only, each
with few codes and about a place that the outline knows of; that of a name given
twice is for boxes with a common name only.
-/

/-- The message has a code, a position and a span of the mistake. -/
structure Diagnostic.IsLocated (diagnostic : Diagnostic) : Prop where
  code : diagnostic.code.isSome
  position : diagnostic.position.isSome
  primarySpan : diagnostic.primarySpan?.isSome

/-- The message is about known places: that of the mistake, and those that it relates to. -/
structure Diagnostic.IsAbout
    (known : Span → Position → Prop)
    (diagnostic : Diagnostic) : Prop
    extends diagnostic.IsLocated where
  mistake :
    ∀ span position, diagnostic.primarySpan? = some span →
      diagnostic.position = some position → known span position
  labels : ∀ label ∈ diagnostic.labels, ∃ position, known label.span position

/-- The message is about known places and has one of some codes. -/
structure Diagnostic.IsOneOf
    (known : Span → Position → Prop)
    (codes : List DiagnosticCode)
    (diagnostic : Diagnostic) : Prop
    extends diagnostic.IsAbout known where
  among : ∃ code ∈ codes, diagnostic.code = some code

namespace Diagnostic

/-- An error that was given no place is not located. -/
theorem not_isLocated_error
    (code : DiagnosticCode)
    (message : String) :
    ¬ (error code message).IsLocated := by
  intro located
  cases located.position

variable {known : Span → Position → Prop} {span related : Span} {position : Position}
variable {diagnostic : Diagnostic}

/-- An error that is marked and located at a known place is about that place. -/
theorem isAbout_mark_locate
    (code : DiagnosticCode)
    (message remark : String)
    (isKnown : known span position) :
    (((error code message).mark span remark).locate position).IsAbout known where
  code := rfl
  position := rfl
  primarySpan := rfl
  mistake := by
    rintro _ _ ⟨⟩ ⟨⟩
    exact isKnown
  labels label member := by
    obtain rfl := List.mem_singleton.mp member
    exact ⟨position, isKnown⟩

/-- A diagnostic stays about known places with a remark on another one. -/
theorem IsAbout.relate
    (about : diagnostic.IsAbout known)
    (remark : String)
    (isKnown : known related position) :
    (diagnostic.relate related remark).IsAbout known := by
  obtain ⟨first, isFirst⟩ := Option.isSome_iff_exists.mp about.primarySpan
  obtain ⟨label, found, isSpan⟩ := Option.map_eq_some_iff.mp isFirst
  have samePrimary : (diagnostic.relate related remark).primarySpan? = some first := by
    rw [primarySpan?, Diagnostic.relate, List.find?_append, found]
    exact congrArg some isSpan
  refine ⟨⟨about.code, about.position, Option.isSome_iff_exists.mpr ⟨first, samePrimary⟩⟩, ?_, ?_⟩
  · intro other otherPosition isOther isPosition
    obtain rfl : first = other := Option.some.inj (samePrimary.symm.trans isOther)
    exact about.mistake first otherPosition isFirst isPosition
  · intro one member
    rcases List.mem_append.mp member with wasThere | isNew
    · exact about.labels one wasThere
    · obtain rfl := List.mem_singleton.mp isNew
      exact ⟨position, isKnown⟩

/-- Help does not change what a diagnostic is about. -/
theorem IsAbout.advise
    (about : diagnostic.IsAbout known)
    (help : String) :
    (diagnostic.advise help).IsAbout known :=
  ⟨⟨about.code, about.position, about.primarySpan⟩, about.mistake, about.labels⟩

/-- A diagnostic at a known place is one of the codes that its code is among. -/
theorem isOneOf_mark_locate
    {code : DiagnosticCode}
    {codes : List DiagnosticCode}
    (member : code ∈ codes)
    (message remark : String)
    (isKnown : known span position) :
    (((error code message).mark span remark).locate position).IsOneOf known codes :=
  ⟨isAbout_mark_locate code message remark isKnown, ⟨code, member, rfl⟩⟩

namespace IsOneOf

variable {codes : List DiagnosticCode}

/-- Help does not change the code of a diagnostic. -/
theorem advise
    (isOneOf : diagnostic.IsOneOf known codes)
    (help : String) :
    (diagnostic.advise help).IsOneOf known codes :=
  ⟨isOneOf.toIsAbout.advise help, isOneOf.among⟩

/-- One of some codes is one of more codes. -/
theorem mono
    {more : List DiagnosticCode}
    (isOneOf : diagnostic.IsOneOf known codes)
    (within : codes ⊆ more) :
    diagnostic.IsOneOf known more := by
  obtain ⟨code, member, isCode⟩ := isOneOf.among
  exact ⟨isOneOf.toIsAbout, ⟨code, within member, isCode⟩⟩

/-- A code that is not among them is not the code of the diagnostic. -/
theorem code_ne
    {code : DiagnosticCode}
    (isOneOf : diagnostic.IsOneOf known codes)
    (outside : code ∉ codes) :
    diagnostic.code ≠ some code := by
  obtain ⟨other, member, isOther⟩ := isOneOf.among
  intro isCode
  cases isOther.symm.trans isCode
  exact outside member

end IsOneOf

end Diagnostic

variable {known : Span → Position → Prop}

/-- The place of an attribute is known. -/
def Outline.Attribute.IsKnown (known : Span → Position → Prop) (written : Attribute) : Prop :=
  known written.span written.position

/-- The places of all boxes of a tree and of their attributes are known. -/
def Outline.Box.IsKnown (known : Span → Position → Prop) (root : Box) : Prop :=
  ∀ address box, root.at? address = some box →
    known box.span box.position ∧ ∀ one ∈ box.attributes, one.IsKnown known

/-- The places of a link, of its ends and of its attributes are known. -/
structure Outline.Connection.IsKnown
    (known : Span → Position → Prop)
    (written : Connection) : Prop where
  whole : known written.span written.position
  source : known written.source.span written.source.position
  target : known written.target.span written.target.position
  attributes : ∀ one ∈ written.attributes, one.IsKnown known

/-- All places of which an outline tells are known. -/
structure Outline.IsKnown (known : Span → Position → Prop) (outline : Outline) : Prop where
  attributes : ∀ one ∈ outline.attributes, one.IsKnown known
  boxes : outline.root.IsKnown known
  connections : ∀ connection ∈ outline.connections, connection.IsKnown known

namespace Outline.Attribute

variable {written : Attribute}

/-- An invalid value is reported at its attribute. -/
theorem isOneOf_invalid
    (isKnown : written.IsKnown known)
    (expected : String) :
    (written.invalid expected).IsOneOf known [.invalidValue] :=
  Diagnostic.isOneOf_mark_locate (by simp) _ _ isKnown

/-- A value that cannot be read is reported at its attribute. -/
theorem valueAs_failsOnly
    {β : Type}
    (isKnown : written.IsKnown known)
    (expected : String)
    (read? : String → Option β) :
    FailsOnly (Diagnostic.IsOneOf known [.invalidValue]) (written.valueAs expected read?) := by
  rw [valueAs]
  split
  · exact .ok _
  · exact .error (isOneOf_invalid isKnown _)

/-- Tags that cannot be read are reported at their attribute. -/
theorem asTags_failsOnly
    (isKnown : written.IsKnown known) :
    FailsOnly (Diagnostic.IsOneOf known [.invalidValue]) written.asTags := by
  refine .bind (valueAs_failsOnly isKnown _ _) fun text _ => ?_
  split
  · exact .error (isOneOf_invalid isKnown _)
  · exact .ok _

end Outline.Attribute

variable {α : Type} [Scalar α]

namespace BoxSettings

/-- An extent that cannot be read or is out of place is reported at its attribute. -/
theorem extent_failsOnly
    (kind : Kind)
    {written : Attribute}
    (isKnown : written.IsKnown known) :
    FailsOnly (Diagnostic.IsOneOf known [.invalidValue, .misplacedAttribute])
      (extent kind written : Except Diagnostic α) := by
  rw [extent]
  split
  · exact (Attribute.valueAs_failsOnly isKnown _ _).imp fun _ isOneOf => isOneOf.mono (by simp)
  · exact .error (Diagnostic.isOneOf_mark_locate (by simp) _ _ isKnown)

/-- The settings of a box fail only at one of its attributes. -/
theorem read_failsOnly
    (kind : Kind)
    {written : List Attribute}
    (areKnown : ∀ one ∈ written, one.IsKnown known) :
    FailsOnly (Diagnostic.IsOneOf known [.invalidValue, .misplacedAttribute])
      (read kind written : Except Diagnostic (BoxSettings α)) := by
  have invalid (diagnostic : Diagnostic) (isOneOf : diagnostic.IsOneOf known [.invalidValue]) :
      diagnostic.IsOneOf known [.invalidValue, .misplacedAttribute] :=
    isOneOf.mono (by simp)
  apply FailsOnly.foldlM
  intro settings one member
  have isKnown := areKnown one member
  rw [add]
  split
  case h_7 => exact .bind ((Attribute.asTags_failsOnly isKnown).imp invalid) fun _ _ => .ok _
  case h_8 => exact .bind (extent_failsOnly kind isKnown) fun _ _ => .ok _
  case h_9 => exact .bind (extent_failsOnly kind isKnown) fun _ _ => .ok _
  case h_10 => exact .ok _
  all_goals
    exact .bind ((Attribute.valueAs_failsOnly isKnown _ _).imp invalid) fun _ _ => .ok _

end BoxSettings

/-- The settings of a link fail only at one of its attributes. -/
theorem LinkSettings.read_failsOnly
    {written : List Attribute}
    (areKnown : ∀ one ∈ written, one.IsKnown known) :
    FailsOnly (Diagnostic.IsOneOf known [.invalidValue]) (LinkSettings.read written) := by
  apply FailsOnly.foldlM
  intro settings one member
  have isKnown := areKnown one member
  rw [add]
  split
  · exact .bind (Attribute.valueAs_failsOnly isKnown _ _) fun _ _ => .ok _
  · exact .bind (Attribute.asTags_failsOnly isKnown) fun _ _ => .ok _
  · exact .ok _

/-- The settings of a text fail only at one of its attributes. -/
theorem Document.read_failsOnly
    {written : List Attribute}
    (areKnown : ∀ one ∈ written, one.IsKnown known) :
    FailsOnly (Diagnostic.IsOneOf known [.invalidValue])
      (Document.read written : Except Diagnostic (Document α)) := by
  apply FailsOnly.foldlM
  intro document one member
  have isKnown := areKnown one member
  rw [add]
  split
  case h_19 => exact .ok _
  all_goals exact .bind (Attribute.valueAs_failsOnly isKnown _ _) fun _ _ => .ok _

section Names

variable {child : Box} {earlier rest : List Box}

/-- A name is claimed by an earlier sibling only if it is the name of both. -/
theorem exists_sibling_of_claimedBy?
    {name : String}
    {first : Span}
    (claimed : claimedBy? earlier child = some (name, first)) :
    (∃ sibling ∈ earlier, sibling.span = first) ∧
      ¬ ((earlier ++ child :: rest).filterMap (·.name)).Nodup := by
  obtain ⟨taken, named, claimed⟩ := Option.bind_eq_some_iff.mp claimed
  obtain ⟨sibling, found, isFirst⟩ := Option.map_eq_some_iff.mp claimed
  have member := List.mem_of_find?_eq_some found
  have sameName : sibling.name = some taken := by simpa using List.find?_some found
  refine ⟨⟨sibling, member, (Prod.mk.inj isFirst).2⟩, ?_⟩
  intro distinct
  rw [List.filterMap_append, List.nodup_append] at distinct
  refine distinct.2.2 taken ?_ taken ?_ rfl
  · exact List.mem_filterMap.mpr ⟨sibling, member, sameName⟩
  · exact List.mem_filterMap.mpr ⟨child, by simp, named⟩

end Names

/-- A name that is taken is reported at both of the boxes. -/
theorem isAbout_nameTaken
    {child sibling : Box}
    {name : String}
    (childKnown : known child.span child.position)
    (siblingKnown : known sibling.span sibling.position) :
    (nameTaken child name sibling.span).IsAbout known :=
  (Diagnostic.isAbout_mark_locate _ _ _ childKnown).relate _ siblingKnown

/-- The codes of mistakes that show only when boxes and links are put together. -/
def DiagnosticCode.resolving : List DiagnosticCode :=
  [.unexpectedConstruct, .invalidValue, .misplacedAttribute, .unknownEndpoint, .duplicateName,
    .relatedEndpoints]

/-- An error of resolving that tells of a name given twice only if a tree has such a name. -/
structure Diagnostic.IsFair
    (known : Span → Position → Prop)
    (namesDiffer : Prop)
    (diagnostic : Diagnostic) : Prop
    extends diagnostic.IsOneOf known DiagnosticCode.resolving where
  duplicate : diagnostic.code = some .duplicateName → ¬ namesDiffer

/-- A diagnostic other than one about equal names is fair whatever the names are. -/
theorem Diagnostic.IsOneOf.isFair
    {codes : List DiagnosticCode}
    {namesDiffer : Prop}
    {diagnostic : Diagnostic}
    (isOneOf : diagnostic.IsOneOf known codes)
    (within : codes ⊆ DiagnosticCode.resolving)
    (outside : .duplicateName ∉ codes) :
    diagnostic.IsFair known namesDiffer where
  toIsOneOf := isOneOf.mono within
  duplicate isDuplicate := absurd isDuplicate (isOneOf.code_ne outside)

/-- Nesting that is too deep is reported at the box. -/
theorem isOneOf_nestedTooDeep
    {box : Box}
    (isKnown : known box.span box.position) :
    (nestedTooDeep box).IsOneOf known [.unexpectedConstruct] :=
  Diagnostic.isOneOf_mark_locate (by simp) _ _ isKnown

mutual

/-- Numbering fails with located errors, and finds a name twice only where siblings share it. -/
theorem numberBox_failsOnly
    (document : Document α)
    (place : Place α)
    (id : NodeId) :
    ∀ box : Box, box.IsKnown known →
      FailsOnly (Diagnostic.IsFair known box.NamesDiffer) (numberBox document place id box)
  | ⟨kind, name, attributes, children, span, position, implicit⟩, isKnown => by
      obtain ⟨ownKnown, attributesKnown⟩ := isKnown [] _ (Box.at?_nil _)
      rw [numberBox]
      split
      · exact .error ((isOneOf_nestedTooDeep ownKnown).isFair (by simp [DiagnosticCode.resolving])
          (by simp))
      · refine .bind ?_ fun settings _ => ?_
        · exact (BoxSettings.read_failsOnly kind attributesKnown).imp fun _ isOneOf =>
            isOneOf.isFair (by simp [DiagnosticCode.resolving]) (by simp)
        dsimp only
        split
        · refine .bind ?_ fun _ _ => .ok _
          refine (numberChildren_failsOnly _ _ _ _ _ _ children (by simp) ?_).imp
            fun _ isFair => ⟨isFair.toIsOneOf, ?_⟩
          · exact fun child member => Box.forall_of_child isKnown member
          · intro isDuplicate namesDiffer
            refine isFair.duplicate isDuplicate ⟨?_, ?_⟩
            · exact namesDiffer [] _ (Box.at?_nil _)
            · exact fun child member => namesDiffer.of_child member
        · exact .ok _

/-- Numbering the children of a box fails only fairly: names that are taken are equal. -/
theorem numberChildren_failsOnly
    (document : Document α)
    (place : Place α)
    (parent : Node α)
    (count : Nat)
    (earlier : List Box)
    (next : NodeId) :
    ∀ boxes : List Box, (∀ sibling ∈ earlier, known sibling.span sibling.position) →
      (∀ child ∈ boxes, child.IsKnown known) →
      FailsOnly
        (Diagnostic.IsFair known
          (((earlier.reverse ++ boxes).filterMap (·.name)).Nodup ∧
            ∀ child ∈ boxes, child.NamesDiffer))
        (numberChildren document place parent count earlier next boxes)
  | [], _, _ => by
      rw [numberChildren]
      exact .ok _
  | child :: rest, earlierKnown, areKnown => by
      have childKnown := areKnown child (by simp)
      obtain ⟨ownKnown, _⟩ := childKnown [] child (Box.at?_nil child)
      rw [numberChildren]
      split
      · rename_i claimed
        obtain ⟨⟨sibling, member, rfl⟩, clash⟩ := exists_sibling_of_claimedBy? claimed
        have siblingKnown := earlierKnown sibling (List.mem_reverse.mp member)
        refine .error ⟨⟨isAbout_nameTaken ownKnown siblingKnown, ?_⟩, ?_⟩
        · exact ⟨.duplicateName, by simp [DiagnosticCode.resolving], rfl⟩
        · exact fun _ differ => clash differ.1
      · refine .bind ?_ fun inner _ => .bind ?_ fun _ _ => .ok _
        · refine (numberBox_failsOnly _ _ _ child childKnown).imp
            fun _ isFair => ⟨isFair.toIsOneOf, ?_⟩
          intro isDuplicate ⟨_, differ⟩
          exact isFair.duplicate isDuplicate (differ child (by simp))
        · refine (numberChildren_failsOnly _ _ _ _ _ _ rest ?_ ?_).imp
            fun _ isFair => ⟨isFair.toIsOneOf, ?_⟩
          · simpa using ⟨ownKnown, earlierKnown⟩
          · exact fun other member => areKnown other (by simp [member])
          · intro isDuplicate ⟨distinct, differ⟩
            refine isFair.duplicate isDuplicate ⟨?_, ?_⟩
            · simpa using distinct
            · exact fun other member => differ other (by simp [member])

end

namespace Outline

omit [Scalar α] in
/-- An end of a link fails only at its place. -/
theorem End.boxes_failsOnly
    (root : Box)
    (placed : List (Placed α))
    {written : End}
    (isKnown : known written.span written.position) :
    FailsOnly (Diagnostic.IsOneOf known [.unknownEndpoint]) (written.boxes root placed) := by
  rw [End.boxes]
  split
  · exact .error (Diagnostic.isOneOf_mark_locate (by simp) _ _ isKnown)
  · exact .ok _

omit [Scalar α] in
/-- Links fail only at one of their ends or attributes. -/
theorem Connection.links_failsOnly
    (root : Box)
    (placed : List (Placed α))
    {written : Connection}
    (isKnown : written.IsKnown known) :
    FailsOnly (Diagnostic.IsOneOf known [.invalidValue, .unknownEndpoint, .relatedEndpoints])
      (written.links root placed) := by
  refine .bind ((LinkSettings.read_failsOnly isKnown.attributes).imp
    fun _ one => one.mono (by simp)) fun _ _ => ?_
  refine .bind ((End.boxes_failsOnly root placed isKnown.source).imp
    fun _ one => one.mono (by simp)) fun _ _ => ?_
  refine .bind ((End.boxes_failsOnly root placed isKnown.target).imp
    fun _ one => one.mono (by simp)) fun _ _ => ?_
  apply FailsOnly.mapM
  rintro ⟨source, target⟩ _
  dsimp only
  split
  · exact .error ((Diagnostic.isOneOf_mark_locate (by simp) _ _ isKnown.whole).advise _)
  · exact .ok _

end Outline

end BoxDiagram
