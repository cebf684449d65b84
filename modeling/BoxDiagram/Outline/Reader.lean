import BoxDiagram.Outline.Arrow
import BoxDiagram.Outline.Attribute
import BoxDiagram.Outline.Selector
import BoxDiagram.Text.Newline

namespace BoxDiagram.Outline

/-!
# Reading an outline

A text is a sequence of constructs: attributes of the whole diagram, separator
lines, boxes, links in braces, and arrows between two boxes. Boxes enter the tree
as soon as their header is read, below the container that is open; a header of a
group or a unit opens it, a separator line opens the root.
-/

/-- The box of a header that was just read. -/
structure Mention where
  address : Address
  span : Span
  position : Position
  deriving Repr, DecidableEq

/-- An arrow after a box, while the box after it has not been read. -/
structure Pending where
  source : Mention
  arrow : Arrow
  span : Span
  position : Position
  deriving Repr, DecidableEq

/-- What is known between two constructs of a text. -/
structure Reader where
  cursor : Cursor
  outline : Outline
  /-- The open container. -/
  container : Address
  /-- Attributes of the whole diagram may still follow. -/
  preamble : Bool
  /-- The separator line that carried attributes of the root. -/
  rootSettings : Option Span
  /-- The box right before the cursor. -/
  lastBox : Option Mention
  /-- The arrow right before the cursor. -/
  pending : Option Pending

/-- The constructs of a text, told apart by their first characters. -/
inductive Construct where
  | lineEnd
  | comment
  | separator
  | box (kind : Kind)
  | connection
  | arrow
  | attribute
  | unknown
  deriving Repr, DecidableEq

namespace Construct

/-- The construct that starts at a place. -/
def ahead? (cursor : Cursor) : Option Construct :=
  match cursor.rest with
  | [] => none
  | '\n' :: _ => some .lineEnd
  | '#' :: _ => some .comment
  | '[' :: '[' :: _ => some (.box .group)
  | '[' :: _ => some (.box .unit)
  | '(' :: _ => some (.box .cell)
  | '\x7b' :: _ => some .connection
  | char :: rest =>
      if cursor.lineBlank && ['-', '-', '-'].isPrefixOf (char :: rest) then some .separator
      else if arrowAhead cursor then some .arrow
      else if Text.isWordChar char then some .attribute
      else some .unknown

end Construct

/-- The brackets around the header of a box. -/
def headerBrackets : Kind → List Char × List Char
  | .group => (['[', '['], [']', ']'])
  | .unit => (['['], [']'])
  | .cell => (['('], [')'])

/-- A header of a box, without the place it stands at. -/
structure Header where
  kind : Kind
  path : Option WrittenPath
  attributes : List Attribute
  span : Span
  position : Position
  deriving Repr, DecidableEq

/--
The path of a header at a place inside it, and the place after it. A path before
an equals sign is none: there the header starts with an attribute.
-/
def readHeaderPath (cursor : Cursor) : Except Diagnostic (Option WrittenPath × Cursor) := do
  if pathAhead cursor then
    let (path, after) ← readPath cursor
    if after.skipGaps.peek? = some '=' then return (none, cursor)
    else return (some path, after.skipGaps)
  else return (none, cursor)

/-- The header of a box of a kind at a place, and the place after it. -/
def readHeader (kind : Kind) (start : Cursor) : Except Diagnostic (Header × Cursor) := do
  let (opener, closer) := headerBrackets kind
  let (path, afterPath) ← readHeaderPath (start.advance opener.length).skipTrivia
  let (attributes, finish) ← attributesUntil start (closer.headD ']') afterPath
  if closer.isPrefixOf finish.rest then
    let after := finish.advance closer.length
    return (⟨kind, path, attributes, start.spanTo after, start.position⟩, after)
  else throw (finish.unexpected s!"where `{String.ofList closer}` was expected")

/-- The error that no box stands at the address of the open container. -/
def lostContainer : Diagnostic :=
  Diagnostic.error .unexpectedConstruct "internal reader error: open container vanished"

/-- The box of a header, as the header declares it. -/
def Header.box (header : Header) (name : Option String) : Box :=
  { Box.leaf header.kind name header.span header.position with attributes := header.attributes }

/-- The tree with the box of a header without path added to a container, and its address. -/
def declareAnonymous (root : Box) (container : Address) (header : Header) :
    Except Diagnostic (Box × Address) :=
  match root.at? container with
  | none => .error lostContainer
  | some parent =>
      .ok (root.appendChild container (header.box none), container ++ [parent.children.length])

/-- The error that a path leads into a cell. -/
def cellAsContainer (header : Header) (path : WrittenPath) (cell : Box) : Diagnostic :=
  let cellName := cell.name.getD ""
  let message := s!"cell `{cellName}` cannot contain other boxes"
  (((Diagnostic.error .conflictingKind message).mark path.span "used as a container here").locate
    header.position).relate cell.span "declared as a cell here"

/-- The box that a path segment of a header adds where the container has no child of that name. -/
def Header.segmentBox (header : Header) (name : String) (isLast : Bool) : Box :=
  if isLast then header.box (some name)
  else
    { Box.leaf .unit (some name) header.span header.position with implicit := true }

/--
Follows the names of a path from an address, adding the boxes that are missing.
Gives the tree, the address of the last name, and whether its box was added.
-/
def followPath (header : Header) (path : WrittenPath) :
    Box → Address → Bool → List String → Except Diagnostic (Box × Address × Bool)
  | root, address, created, [] => .ok (root, address, created)
  | root, address, _, name :: rest =>
      match root.at? address with
      | none => .error lostContainer
      | some parent =>
          if parent.kind = .cell then .error (cellAsContainer header path parent)
          else
            match parent.childIndex? name with
            | some index => followPath header path root (address ++ [index]) false rest
            | none =>
                let child := header.segmentBox name rest.isEmpty
                followPath header path (root.appendChild address child)
                  (address ++ [parent.children.length]) true rest

/-- The error that a box is declared with two kinds. -/
def kindConflict (header : Header) (path : WrittenPath) (existing : Box) : Diagnostic :=
  let message :=
    s!"box is declared as a {header.kind.name} but already is a {existing.kind.name}"
  (((Diagnostic.error .conflictingKind message).mark path.span "conflicting declaration").locate
    header.position).relate existing.span "first declared here"

/-- The error that two headers give attributes to one box. -/
def repeatedAttributes (header : Header) (existing : Box) : Diagnostic :=
  ((((Diagnostic.error .attributesGivenTwice "box already received attributes").mark header.span
    "attributes given again").locate header.position).relate existing.span
    "attributes first given here").advise "give all attributes in one header"

/-- A box that is in the tree already, after another header for it. -/
def Header.redeclare (header : Header) (path : WrittenPath) (existing : Box) :
    Except Diagnostic Box := do
  let declared : Box ←
    if existing.implicit then
      if header.kind = .cell then throw (kindConflict header path existing)
      else
        pure { existing with
          kind := header.kind
          implicit := false
          span := header.span
          position := header.position }
    else if existing.kind ≠ header.kind then throw (kindConflict header path existing)
    else pure existing
  if header.attributes.isEmpty then return declared
  else if !declared.attributes.isEmpty then throw (repeatedAttributes header declared)
  else
    return { declared with
      attributes := header.attributes
      span := header.span
      position := header.position }

/-- The tree after a header with a path, while a container is open, and the address of its box. -/
def declarePath (root : Box) (container : Address) (header : Header) (path : WrittenPath) :
    Except Diagnostic (Box × Address) := do
  let base := if path.relative then container else []
  let (grown, address, created) ← followPath header path root base false path.segments
  if created then return (grown, address)
  match grown.at? address with
  | none => throw lostContainer
  | some existing =>
      let declared ← header.redeclare path existing
      return (grown.modifyAt address fun _ => declared, address)

/-- The tree after a header, while a container is open, and the address of its box. -/
def declare (root : Box) (container : Address) (header : Header) :
    Except Diagnostic (Box × Address) :=
  match header.path with
  | some path => declarePath root container header path
  | none => declareAnonymous root container header

/-- The link of an arrow between two boxes. -/
def Pending.connect (pending : Pending) (target : Mention) : Connection where
  source := ⟨.address pending.source.address, pending.source.span, pending.source.position⟩
  target := ⟨.address target.address, target.span, target.position⟩
  arrow := pending.arrow
  attributes := []
  span := pending.source.span.union target.span
  position := pending.source.position

namespace Reader

/-- Before the first construct of a text. -/
def start (text : List Char) : Reader where
  cursor := .start text
  outline := .empty
  container := []
  preamble := true
  rootSettings := none
  lastBox := none
  pending := none

/-- The error that no box follows an arrow. -/
def missingTarget (pending : Pending) : Diagnostic :=
  (((Diagnostic.error .danglingArrow "link-type token has no box after it").mark pending.span
    "expected a box after this link").locate pending.position).advise
    "write the target box right after the link, e.g. `(a) -> (b)`"

/-- An error if an arrow waits for its second box. -/
def requireNoPending (reader : Reader) : Except Diagnostic Unit :=
  match reader.pending with
  | some pending => .error (missingTarget pending)
  | none => .ok ()

/-- The error that a second separator line carries attributes. -/
def secondRootSettings (start : Cursor) (span first : Span) : Diagnostic :=
  ((start.fail .rootConfiguredTwice "the root is configured more than once" span
    "second root configuration").relate first "first configured here").advise
    "merge the attributes into one separator line"

/-- After the separator line at the cursor. -/
def readSeparator (reader : Reader) : Except Diagnostic Reader := do
  reader.requireNoPending
  let start := reader.cursor
  let (attributes, finish) ← attributesUntilLineEnd (start.skipWhile (· == '-'))
  let span := start.spanTo finish
  let opened : Reader :=
    { reader with cursor := finish, container := [], preamble := false, lastBox := none }
  if attributes.isEmpty then return opened
  match reader.rootSettings with
  | some first => throw (secondRootSettings start span first)
  | none =>
      let root : Box :=
        { reader.outline.root with
          attributes := attributes
          span := span
          position := start.position }
      return { opened with
        outline := { reader.outline with root := root }
        rootSettings := some span }

/-- After the header of a box at the cursor. -/
def readBox (reader : Reader) (kind : Kind) : Except Diagnostic Reader := do
  let (header, after) ← readHeader kind reader.cursor
  let (root, address) ← declare reader.outline.root reader.container header
  let mention : Mention := ⟨address, header.span, header.position⟩
  let connections := reader.pending.toList.map (·.connect mention)
  return { reader with
    cursor := after
    outline := { reader.outline with
      root := root
      connections := reader.outline.connections ++ connections }
    container := if kind.isContainer then address else reader.container
    preamble := false
    lastBox := some mention
    pending := none }

/-- After the link in braces at the cursor. -/
def readConnection (reader : Reader) : Except Diagnostic Reader := do
  reader.requireNoPending
  let start := reader.cursor
  let (source, afterSource) ← readEnd reader.container (start.advance 1).skipTrivia
  let beforeArrow := afterSource.skipTrivia
  if !arrowAhead beforeArrow then
    throw (start.fail .unexpectedConstruct "expected a link-type token such as `->`"
      (start.spanTo beforeArrow) "incomplete link")
  let (arrow, afterArrow) ← readArrow beforeArrow
  let beforeTarget := afterArrow.skipTrivia
  if beforeTarget.peek?.all (· == '\x7d') then
    throw (start.fail .unexpectedConstruct "link is missing its target"
      (start.spanTo beforeTarget) "incomplete link")
  let (target, afterTarget) ← readEnd reader.container beforeTarget
  let (attributes, finish) ← attributesUntil start '\x7d' afterTarget
  let after := finish.advance 1
  let connection : Connection :=
    ⟨source, target, arrow, attributes, start.spanTo after, start.position⟩
  return { reader with
    cursor := after
    outline := { reader.outline with
      connections := reader.outline.connections ++ [connection] }
    preamble := false
    lastBox := none }

/-- The error that no box stands before an arrow. -/
def missingSource (start : Cursor) : Diagnostic :=
  let finish := start.skipWhile fun char => isArrowChar char || char.isDigit
  (start.fail .danglingArrow "link-type token has no box before it" (start.spanTo finish)
    "dangling link").advise "short links join the box right before and right after the token"

/-- Reads the arrow behind a box; it waits for the box that it leads to. -/
def readPending (reader : Reader) : Except Diagnostic Reader := do
  match reader.lastBox with
  | none => throw (missingSource reader.cursor)
  | some source =>
      let (arrow, after) ← readArrow reader.cursor
      let pending : Pending :=
        ⟨source, arrow, reader.cursor.spanTo after, reader.cursor.position⟩
      return { reader with cursor := after, lastBox := none, pending := some pending }

/-- The error that an attribute of the whole diagram comes too late. -/
def lateAttribute (start : Cursor) : Diagnostic :=
  (start.fail .misplacedDocumentAttribute
    "document attributes must come before the first box or separator"
    (start.spanTo (start.skipWhile Text.isWordChar)) "out of place").advise
    "move this attribute to the top of the document"

/-- After the attribute of the whole diagram at the cursor. -/
def readDocumentAttribute (reader : Reader) : Except Diagnostic Reader := do
  if reader.preamble then
    let (first, after) ← readAttribute reader.cursor
    return { reader with
      cursor := after
      outline := { reader.outline with attributes := reader.outline.attributes ++ [first] } }
  else throw (lateAttribute reader.cursor)

/-- After a construct that stands at the cursor. -/
def readConstruct (reader : Reader) : Construct → Except Diagnostic Reader
  | .lineEnd => .ok { reader with cursor := reader.cursor.advance 1 }
  | .comment => .ok { reader with cursor := reader.cursor.skipComment }
  | .separator => reader.readSeparator
  | .box kind => reader.readBox kind
  | .connection => reader.readConnection
  | .arrow => reader.readPending
  | .attribute => reader.readDocumentAttribute
  | .unknown => .error (reader.cursor.unexpected "at the top level")

/-- At the next construct, past the spaces and tabs before it. -/
def skipGaps (reader : Reader) : Reader :=
  { reader with cursor := reader.cursor.skipGaps }

/-- At the end of the text, or after a bounded number of constructs. -/
def readConstructs : Nat → Reader → Except Diagnostic Reader
  | 0, reader => .ok reader
  | limit + 1, reader =>
      match Construct.ahead? reader.skipGaps.cursor with
      | none => .ok reader.skipGaps
      | some construct =>
          match reader.skipGaps.readConstruct construct with
          | .ok next => readConstructs limit next
          | .error diagnostic => .error diagnostic

/-- The outline of a text, when all of it has been read. -/
def finish (reader : Reader) : Except Diagnostic Outline := do
  reader.requireNoPending
  return reader.outline

end Reader

/-- The outline of a text whose lines end with line feeds. -/
def ofNormalized (text : List Char) : Except Diagnostic Outline := do
  let reader ← (Reader.start text).readConstructs (text.length + 1)
  reader.finish

end Outline

/-- The outline of a source, whatever its line ends are. -/
def Outline.read (source : String) : Except Diagnostic Outline :=
  Outline.ofNormalized (Text.normalizeNewlines source.toList)

end BoxDiagram
