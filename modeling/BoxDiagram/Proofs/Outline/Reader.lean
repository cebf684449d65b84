import BoxDiagram.Proofs.Outline.Declare
import Mathlib.Logic.Relation

namespace BoxDiagram

open Attempt (bind_eq_ok_iff)

/-!
# States of the reader

Between two constructs of a text the reader holds a sound tree together with
addresses into it: of the open container, of the last box, of the box before an
arrow, and of the ends of links.  One construct keeps all of them in the tree and
lets the tree grow, and so does a whole run.
-/

namespace Outline

/-- The address that a selector holds, if it holds one, is in a tree. -/
def Selector.StandsIn (root : Box) : Selector → Prop
  | .path base _ => ∃ box, root.at? base = some box
  | .address place => ∃ box, root.at? place = some box
  | .name _ => True
  | .tag _ => True

/-- A selector stands in a tree that has grown. -/
theorem Selector.StandsIn.of_grows
    {selector : Selector}
    {root later : Box}
    (standsIn : selector.StandsIn root)
    (grows : root.Grows later) :
    selector.StandsIn later := by
  cases selector with
  | path base segments =>
      obtain ⟨box, found⟩ := standsIn
      obtain ⟨after, foundAfter, _⟩ := grows base box found
      exact ⟨after, foundAfter⟩
  | address address =>
      obtain ⟨box, found⟩ := standsIn
      obtain ⟨after, foundAfter, _⟩ := grows address box found
      exact ⟨after, foundAfter⟩
  | name name =>
      trivial
  | tag tag =>
      trivial

/-- The boxes between which a link was drawn, and the containers of its paths, are in a tree. -/
structure Connection.StandsIn (connection : Connection) (root : Box) : Prop where
  source : connection.source.selector.StandsIn root
  target : connection.target.selector.StandsIn root

/-- The end of a link that was read stands in the tree as it is. -/
theorem standsIn_of_readEnd
    {root : Box}
    {container : Address}
    {start after : Cursor}
    {written : End}
    (isOpen : ∃ box, root.at? container = some box)
    (succeeded : readEnd container start = .ok (written, after)) :
    written.selector.StandsIn root := by
  rw [readEnd] at succeeded
  split at succeeded
  · obtain ⟨_, _, succeeded⟩ := bind_eq_ok_iff.mp succeeded
    cases succeeded
    trivial
  · obtain ⟨_, _, succeeded⟩ := bind_eq_ok_iff.mp succeeded
    cases succeeded
    trivial
  · split at succeeded
    · obtain ⟨⟨path, _⟩, _, succeeded⟩ := bind_eq_ok_iff.mp succeeded
      cases succeeded
      obtain ⟨box, found⟩ := isOpen
      exact exists_base path found
    · cases succeeded

end Outline

open Outline

/-- The tree of an outline is sound below an explicit unit without name, and its links end in it. -/
structure Outline.IsSound (outline : Outline) : Prop where
  boxes : outline.root.IsSound
  root : Box.root.Keeps outline.root
  connections : ∀ connection ∈ outline.connections, connection.StandsIn outline.root

/-- The empty outline is sound. -/
theorem Outline.isSound_empty :
    Outline.empty.IsSound where
  boxes address box found := by
    cases address with
    | nil =>
        obtain rfl : Box.root = box := Option.some.inj ((Box.at?_nil _).symm.trans found)
        exact Box.isWellShaped_leaf rfl rfl
    | cons index rest =>
        cases found
  root := .refl _
  connections connection member := by
    cases member

namespace Outline.IsSound

variable {outline : Outline}

/-- An outline stays sound when its tree grows to a sound one. -/
theorem of_grows
    {grown : Box}
    (sound : outline.IsSound)
    (boxes : grown.IsSound)
    (grows : outline.root.Grows grown) :
    { outline with root := grown : Outline }.IsSound where
  boxes := boxes
  root := by
    obtain ⟨after, foundAfter, keeps⟩ := grows [] _ (Box.at?_nil _)
    obtain rfl : grown = after := by simpa using foundAfter
    exact sound.root.trans keeps
  connections connection member := by
    have standsIn := sound.connections connection member
    exact ⟨standsIn.source.of_grows grows, standsIn.target.of_grows grows⟩

/-- An outline stays sound with connections that stand in its tree. -/
theorem connect
    {connections : List Connection}
    (sound : outline.IsSound)
    (standIn : ∀ connection ∈ connections, connection.StandsIn outline.root) :
    { outline with connections := outline.connections ++ connections : Outline }.IsSound where
  boxes := sound.boxes
  root := sound.root
  connections connection member := by
    rcases List.mem_append.mp member with wasThere | isNew
    · exact sound.connections connection wasThere
    · exact standIn connection isNew

/-- The root of a sound outline is a container. -/
theorem isContainer_root
    (sound : outline.IsSound) :
    outline.root.kind.isContainer = true :=
  sound.root.isContainer_eq

end Outline.IsSound

namespace Outline.Reader

/-- All addresses that the reader holds are in its sound tree, and a container is open. -/
structure IsSound (reader : Reader) : Prop where
  outline : reader.outline.IsSound
  container :
    ∃ box, reader.outline.root.at? reader.container = some box ∧ box.kind.isContainer = true
  lastBox :
    ∀ mention, reader.lastBox = some mention →
      ∃ box, reader.outline.root.at? mention.address = some box
  pending :
    ∀ pending, reader.pending = some pending →
      ∃ box, reader.outline.root.at? pending.source.address = some box

/-- One construct is read. -/
def Advances (reader next : Reader) : Prop :=
  ∃ construct, Construct.ahead? reader.skipGaps.cursor = some construct ∧
    reader.skipGaps.readConstruct construct = .ok next

/-- Some number of constructs is read. -/
def Reaches (reader later : Reader) : Prop :=
  Relation.ReflTransGen Advances reader later

/-- The reader starts sound. -/
theorem isSound_start
    (text : List Char) :
    (start text).IsSound where
  outline := isSound_empty
  container := ⟨Box.root, Box.at?_nil _, rfl⟩
  lastBox mention isLast := by
    cases isLast
  pending pending isPending := by
    cases isPending

theorem IsSound.skipGaps
    {reader : Reader}
    (sound : reader.IsSound) :
    reader.skipGaps.IsSound :=
  ⟨sound.outline, sound.container, sound.lastBox, sound.pending⟩

variable {reader next later : Reader}

theorem pending_eq_none_of_requireNoPending
    {done : Unit}
    (succeeded : reader.requireNoPending = .ok done) :
    reader.pending = none := by
  rw [requireNoPending] at succeeded
  split at succeeded
  · cases succeeded
  · rename_i isNone
    exact isNone

/-- The reader after a separator line that ends at a place: the root is open. -/
def opened (reader : Reader) (after : Cursor) : Reader :=
  { reader with cursor := after, container := [], preamble := false, lastBox := none }

/-- The root with the attributes of a separator line that ends at a place. -/
def configuredRoot (reader : Reader) (attributes : List Attribute) (after : Cursor) : Box :=
  { reader.outline.root with
    attributes := attributes
    span := reader.cursor.spanTo after
    position := reader.cursor.position }

/-- The reader after a separator line with attributes that ends at a place. -/
def configured (reader : Reader) (attributes : List Attribute) (after : Cursor) : Reader :=
  { reader.opened after with
    outline := { reader.outline with root := reader.configuredRoot attributes after }
    rootSettings := some (reader.cursor.spanTo after) }

/-- Configuring the root keeps all but its attributes. -/
theorem keeps_configuredRoot
    (reader : Reader)
    (attributes : List Attribute)
    (after : Cursor) :
    reader.outline.root.Keeps (reader.configuredRoot attributes after) :=
  ⟨rfl, rfl, fun isExplicit => ⟨isExplicit, rfl⟩⟩

/-- No arrow waits at a separator line, and only the first one with attributes is read. -/
theorem cases_of_readSeparator
    (succeeded : reader.readSeparator = .ok next) :
    reader.pending = none ∧
      ∃ attributes after,
        attributesUntilLineEnd (reader.cursor.skipWhile (· == '-')) = .ok (attributes, after) ∧
          (attributes = [] ∧ next = reader.opened after ∨
            attributes ≠ [] ∧ reader.rootSettings = none ∧
              next = reader.configured attributes after) := by
  rw [readSeparator] at succeeded
  obtain ⟨_, isRequired, succeeded⟩ := bind_eq_ok_iff.mp succeeded
  obtain ⟨⟨attributes, after⟩, read, succeeded⟩ := bind_eq_ok_iff.mp succeeded
  refine ⟨pending_eq_none_of_requireNoPending isRequired, attributes, after, read, ?_⟩
  dsimp only at succeeded
  split at succeeded
  · rename_i isPlain
    cases succeeded
    exact .inl ⟨List.isEmpty_iff.mp isPlain, rfl⟩
  · rename_i isFurnished
    split at succeeded
    · cases succeeded
    · rename_i unconfigured
      cases succeeded
      exact .inr ⟨by simpa using isFurnished, unconfigured, rfl⟩

/-- A separator keeps the reader sound. -/
theorem isSound_of_readSeparator
    (sound : reader.IsSound)
    (succeeded : reader.readSeparator = .ok next) :
    next.IsSound ∧ reader.outline.root.Grows next.outline.root := by
  obtain ⟨noArrow, attributes, after, _, ⟨_, rfl⟩ | ⟨_, _, rfl⟩⟩ :=
    cases_of_readSeparator succeeded
  · refine ⟨⟨sound.outline, ?_, nofun, sound.pending⟩, .refl _⟩
    exact ⟨_, Box.at?_nil _, sound.outline.isContainer_root⟩
  · obtain ⟨isExplicit, _⟩ := sound.outline.root.explicit rfl
    have shaped := sound.outline.boxes [] _ (Box.at?_nil _)
    obtain ⟨grownSound, grows⟩ :=
      sound.outline.boxes.redeclared (Box.at?_nil _)
        (reader.keeps_configuredRoot attributes after) rfl
        ⟨shaped.cell, shaped.names, fun isImplicit =>
          absurd (isExplicit.symm.trans isImplicit) Bool.false_ne_true⟩
    have grown := sound.outline.of_grows grownSound grows
    refine ⟨⟨grown, ⟨_, Box.at?_nil _, grown.isContainer_root⟩, nofun, ?_⟩, grows⟩
    intro pending isPending
    cases noArrow.symm.trans isPending

/-- A header gives the kind of box that its bracket announced. -/
theorem kind_of_readHeader
    {kind : Kind}
    {header : Header}
    {start after : Cursor}
    (succeeded : readHeader kind start = .ok (header, after)) :
    header.kind = kind := by
  rw [readHeader] at succeeded
  generalize headerBrackets kind = brackets at succeeded
  obtain ⟨opener, closer⟩ := brackets
  obtain ⟨_, _, succeeded⟩ := bind_eq_ok_iff.mp succeeded
  obtain ⟨_, _, succeeded⟩ := bind_eq_ok_iff.mp succeeded
  dsimp only at succeeded
  split at succeeded
  · cases succeeded
    rfl
  · cases succeeded

/-- A box keeps the reader sound, and the tree grows by it. -/
theorem isSound_of_readBox
    {kind : Kind}
    (sound : reader.IsSound)
    (succeeded : reader.readBox kind = .ok next) :
    next.IsSound ∧ reader.outline.root.Grows next.outline.root := by
  rw [readBox] at succeeded
  obtain ⟨⟨header, after⟩, isHeader, succeeded⟩ := bind_eq_ok_iff.mp succeeded
  obtain ⟨⟨root, address⟩, isDeclared, succeeded⟩ := bind_eq_ok_iff.mp succeeded
  cases succeeded
  obtain ⟨parent, found, isContainer⟩ := sound.container
  obtain ⟨grownSound, grows, box, boxFound, ofHeader⟩ :=
    grows_of_declare sound.outline.boxes found isContainer isDeclared
  refine ⟨⟨(sound.outline.of_grows grownSound grows).connect ?_, ?_, ?_, nofun⟩, grows⟩
  · intro connection member
    obtain ⟨pending, isPending, rfl⟩ := List.mem_map.mp member
    obtain ⟨source, sourceFound⟩ := sound.pending pending (Option.mem_toList.mp isPending)
    obtain ⟨later, laterFound, _⟩ := grows _ source sourceFound
    exact ⟨⟨later, laterFound⟩, ⟨box, boxFound⟩⟩
  · split
    · rename_i opens
      exact ⟨box, boxFound, by rw [ofHeader, kind_of_readHeader isHeader, opens]⟩
    · obtain ⟨later, laterFound, keeps⟩ := grows _ parent found
      exact ⟨later, laterFound, keeps.isContainer_eq.trans isContainer⟩
  · intro mention isLast
    cases isLast
    exact ⟨box, boxFound⟩

/-- Links in braces keep the reader sound. -/
theorem isSound_of_readConnection
    (sound : reader.IsSound)
    (succeeded : reader.readConnection = .ok next) :
    next.IsSound ∧ reader.outline.root.Grows next.outline.root := by
  rw [readConnection] at succeeded
  obtain ⟨_, _, succeeded⟩ := bind_eq_ok_iff.mp succeeded
  obtain ⟨⟨source, afterSource⟩, isSource, succeeded⟩ := bind_eq_ok_iff.mp succeeded
  dsimp only at succeeded
  split at succeeded
  · cases succeeded
  · obtain ⟨⟨arrow, afterArrow⟩, _, succeeded⟩ := bind_eq_ok_iff.mp succeeded
    dsimp only at succeeded
    split at succeeded
    · cases succeeded
    · obtain ⟨⟨target, afterTarget⟩, isTarget, succeeded⟩ := bind_eq_ok_iff.mp succeeded
      obtain ⟨⟨attributes, finish⟩, _, succeeded⟩ := bind_eq_ok_iff.mp succeeded
      cases succeeded
      obtain ⟨parent, found, _⟩ := sound.container
      refine ⟨⟨?_, sound.container, nofun, sound.pending⟩, .refl _⟩
      refine sound.outline.connect fun connection member => ?_
      obtain rfl := List.mem_singleton.mp member
      exact ⟨standsIn_of_readEnd ⟨parent, found⟩ isSource,
        standsIn_of_readEnd ⟨parent, found⟩ isTarget⟩

/-- An arrow keeps the reader sound. -/
theorem isSound_of_readPending
    (sound : reader.IsSound)
    (succeeded : reader.readPending = .ok next) :
    next.IsSound ∧ reader.outline.root.Grows next.outline.root := by
  rw [readPending] at succeeded
  split at succeeded
  · cases succeeded
  · rename_i source isLast
    obtain ⟨⟨arrow, after⟩, _, succeeded⟩ := bind_eq_ok_iff.mp succeeded
    cases succeeded
    refine ⟨⟨sound.outline, sound.container, nofun, ?_⟩, .refl _⟩
    intro pending isPending
    cases isPending
    exact sound.lastBox source isLast

/-- An attribute of the text keeps the reader sound. -/
theorem isSound_of_readDocumentAttribute
    (sound : reader.IsSound)
    (succeeded : reader.readDocumentAttribute = .ok next) :
    next.IsSound ∧ reader.outline.root.Grows next.outline.root := by
  rw [readDocumentAttribute] at succeeded
  split at succeeded
  · obtain ⟨⟨first, after⟩, _, succeeded⟩ := bind_eq_ok_iff.mp succeeded
    cases succeeded
    obtain ⟨boxes, root, connections⟩ := sound.outline
    exact ⟨⟨⟨boxes, root, connections⟩, sound.container, sound.lastBox, sound.pending⟩, .refl _⟩
  · cases succeeded

/-- One construct leaves the reader in a sound state with a tree that has grown. -/
theorem isSound_of_readConstruct
    {construct : Construct}
    (sound : reader.IsSound)
    (succeeded : reader.readConstruct construct = .ok next) :
    next.IsSound ∧ reader.outline.root.Grows next.outline.root := by
  cases construct with
  | lineEnd =>
      cases succeeded
      exact ⟨⟨sound.outline, sound.container, sound.lastBox, sound.pending⟩, .refl _⟩
  | comment =>
      cases succeeded
      exact ⟨⟨sound.outline, sound.container, sound.lastBox, sound.pending⟩, .refl _⟩
  | separator =>
      exact isSound_of_readSeparator sound succeeded
  | box kind =>
      exact isSound_of_readBox sound succeeded
  | connection =>
      exact isSound_of_readConnection sound succeeded
  | arrow =>
      exact isSound_of_readPending sound succeeded
  | «attribute» =>
      exact isSound_of_readDocumentAttribute sound succeeded
  | unknown =>
      cases succeeded

/-- Each construct keeps the reader sound, and the tree grows by it. -/
theorem isSound_of_advances
    (sound : reader.IsSound)
    (advances : reader.Advances next) :
    next.IsSound ∧ reader.outline.root.Grows next.outline.root := by
  obtain ⟨construct, _, succeeded⟩ := advances
  obtain ⟨nextSound, grows⟩ := isSound_of_readConstruct sound.skipGaps succeeded
  exact ⟨nextSound, grows⟩

/-- However many constructs are read, the state stays sound and the tree only grows. -/
theorem isSound_of_reaches
    (sound : reader.IsSound)
    (reaches : reader.Reaches later) :
    later.IsSound ∧ reader.outline.root.Grows later.outline.root := by
  induction reaches with
  | refl =>
      exact ⟨sound, .refl _⟩
  | tail _ advances inductionHypothesis =>
      obtain ⟨middleSound, grows⟩ := inductionHypothesis
      obtain ⟨lastSound, growsOn⟩ := isSound_of_advances middleSound advances
      exact ⟨lastSound, grows.trans growsOn⟩

/-- Reading ends in a state that is reached construct by construct, past the gaps after it. -/
theorem reaches_of_readConstructs
    {limit : Nat}
    (succeeded : reader.readConstructs limit = .ok later) :
    ∃ reached : Reader, reader.Reaches reached ∧ later.outline = reached.outline := by
  induction limit generalizing reader with
  | zero =>
      cases succeeded
      exact ⟨_, .refl, rfl⟩
  | succ limit inductionHypothesis =>
      rw [readConstructs] at succeeded
      split at succeeded
      · cases succeeded
        exact ⟨reader, .refl, rfl⟩
      · rename_i construct isAhead
        split at succeeded
        · rename_i next advanced
          obtain ⟨reached, reaches, same⟩ := inductionHypothesis succeeded
          exact ⟨reached, .head ⟨construct, isAhead, advanced⟩ reaches, same⟩
        · cases succeeded

end Outline.Reader

namespace Outline

/-- An outline that is read is that of a state the reader reaches. -/
theorem reaches_of_read
    {source : String}
    {outline : Outline}
    (succeeded : Outline.read source = .ok outline) :
    ∃ reader : Reader,
      (Reader.start (Text.normalizeNewlines source.toList)).Reaches reader ∧
        outline = reader.outline := by
  obtain ⟨reader, isLast, succeeded⟩ := bind_eq_ok_iff.mp succeeded
  obtain ⟨_, _, succeeded⟩ := bind_eq_ok_iff.mp succeeded
  cases succeeded
  exact Reader.reaches_of_readConstructs isLast

end Outline

end BoxDiagram
