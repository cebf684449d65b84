import BoxDiagram.Proofs.Outline.Places
import BoxDiagram.Proofs.Outline.References

namespace BoxDiagram

open Attempt (bind_eq_ok_iff)

/-!
# The constructs of a text

`Scans` says of a text, without a reader that remembers anything but the open container,
which attributes, separator lines, boxes, arrows and links stand in it one after the other.
The boxes are those of the finished tree to which the headers refer.
-/

namespace Cursor

variable {cursor first last : Cursor} {char : Char}

/-- A cursor only moves on. -/
theorem LeadsTo.length_le
    (leads : first.LeadsTo last) :
    last.rest.length ≤ first.rest.length := by
  obtain ⟨passed, passes⟩ := leads
  rw [passes.rest_eq, List.length_append]
  omega

/-- Behind a character there is less to read. -/
theorem length_advance_one
    (stands : cursor.peek? = some char) :
    (cursor.advance 1).rest.length < cursor.rest.length := by
  rw [(passes_advance_one stands).rest_eq, List.length_append, List.length_singleton]
  omega

theorem leadsTo_advance_succ
    (count : Nat) :
    (cursor.advance 1).LeadsTo (cursor.advance (count + 1)) := by
  cases stands : cursor.rest with
  | nil =>
      simp only [advance, stands]
      exact .refl cursor
  | cons char rest =>
      simp only [advance, stands]
      exact leadsTo_advance count

/-- Characters that are skipped are passed over one after the other. -/
theorem leadsTo_skipWhile_of_accept
    {accept : Char → Bool}
    (stands : cursor.peek? = some char)
    (accepted : accept char = true) :
    (cursor.advance 1).LeadsTo (cursor.skipWhile accept) := by
  obtain ⟨rest, isRest⟩ := List.head?_eq_some_iff.mp stands
  rw [skipWhile, takeWhile, isRest, List.takeWhile_cons_of_pos accepted, List.length_cons]
  exact leadsTo_advance_succ _

end Cursor

namespace Outline

open Cursor

/-- A construct of a text that is neither a line end nor a comment. -/
inductive Item where
  /-- An attribute of the whole diagram. -/
  | setting (written : Attribute)
  | separator (attributes : List Attribute)
  /-- The header of a box, and the address of the box to which it refers. -/
  | box (header : Header) (address : Address)
  | arrow (written : Arrow)
  | link (written : Connection)

/-- The link in braces at a place, while a container is open, and the place after it. -/
def readLink (container : Address) (start : Cursor) : Except Diagnostic (Connection × Cursor) := do
  let (source, afterSource) ← readEnd container (start.advance 1).skipTrivia
  let beforeArrow := afterSource.skipTrivia
  if !arrowAhead beforeArrow then
    throw (start.fail .unexpectedConstruct "expected a link-type token such as `->`"
      (start.spanTo beforeArrow) "incomplete link")
  let (arrow, afterArrow) ← readArrow beforeArrow
  let beforeTarget := afterArrow.skipTrivia
  if beforeTarget.peek?.all (· == '\x7d') then
    throw (start.fail .unexpectedConstruct "link is missing its target"
      (start.spanTo beforeTarget) "incomplete link")
  let (target, afterTarget) ← readEnd container beforeTarget
  let (attributes, finish) ← attributesUntil start '\x7d' afterTarget
  let after := finish.advance 1
  return (⟨source, target, arrow, attributes, start.spanTo after, start.position⟩, after)

/-- After a link in braces the reader has added this link and forgotten the box before it. -/
theorem Reader.readConnection_eq
    (reader : Reader) :
    reader.readConnection = (do
      reader.requireNoPending
      let (written, after) ← readLink reader.container reader.cursor
      return { reader with
        cursor := after
        outline := { reader.outline with
          connections := reader.outline.connections ++ [written] }
        preamble := false
        lastBox := none }) := by
  rw [readConnection]
  cases reader.requireNoPending with
  | error => rfl
  | ok =>
      rw [readLink]
      simp only [Attempt.ok_bind]
      cases readEnd reader.container (reader.cursor.advance 1).skipTrivia with
      | error => rfl
      | ok source =>
          simp only [Attempt.ok_bind]
          split
          · rfl
          · cases readArrow source.2.skipTrivia with
            | error => rfl
            | ok arrow =>
                simp only [Attempt.ok_bind]
                split
                · rfl
                · cases readEnd reader.container arrow.2.skipTrivia with
                  | error => rfl
                  | ok target =>
                      simp only [Attempt.ok_bind]
                      cases attributesUntil reader.cursor '\x7d' target.2 <;> rfl

/--
A construct at a place gives at most one item, the container that is open after it, and the
place after it.
-/
inductive Construct.Yields
    (root : Box)
    (container : Address)
    (cursor : Cursor) : Construct → List Item → Address → Cursor → Prop where
  | lineEnd : Yields root container cursor .lineEnd [] container (cursor.advance 1)
  | comment : Yields root container cursor .comment [] container cursor.skipComment
  | separator
      {attributes : List Attribute}
      {after : Cursor}
      (read : attributesUntilLineEnd (cursor.skipWhile (· == '-')) = .ok (attributes, after)) :
      Yields root container cursor .separator [.separator attributes] [] after
  | box
      {kind : Kind}
      {header : Header}
      {address : Address}
      {after : Cursor}
      (read : readHeader kind cursor = .ok (header, after))
      (refers : header.RefersTo root container address) :
      Yields root container cursor (.box kind) [.box header address]
        (if kind.isContainer then address else container) after
  | connection
      {written : Connection}
      {after : Cursor}
      (read : readLink container cursor = .ok (written, after)) :
      Yields root container cursor .connection [.link written] container after
  | arrow
      {arrow : Arrow}
      {after : Cursor}
      (read : readArrow cursor = .ok (arrow, after)) :
      Yields root container cursor .arrow [.arrow arrow] container after
  | «attribute»
      {written : Attribute}
      {after : Cursor}
      (read : readAttribute cursor = .ok (written, after)) :
      Yields root container cursor .«attribute» [.setting written] container after

/-- The items that stand in a text from a place on, while a container is open. -/
inductive Scans (root : Box) : Address → Cursor → List Item → Prop where
  | finish
      {container : Address}
      {cursor : Cursor}
      (atEnd : cursor.skipGaps.rest = []) :
      Scans root container cursor []
  | next
      {container opened : Address}
      {cursor after : Cursor}
      {construct : Construct}
      {items others : List Item}
      (isAhead : Construct.ahead? cursor.skipGaps = some construct)
      (yields : construct.Yields root container cursor.skipGaps items opened after)
      (later : Scans root opened after others) :
      Scans root container cursor (items ++ others)

/-- What a construct yielded still stands after the tree has grown. -/
theorem Construct.Yields.of_growsInto
    {root later : Box}
    {container opened : Address}
    {cursor after : Cursor}
    {construct : Construct}
    {items : List Item}
    (yields : construct.Yields root container cursor items opened after)
    (growsInto : root.GrowsInto later) :
    construct.Yields later container cursor items opened after := by
  cases yields with
  | lineEnd => exact .lineEnd
  | comment => exact .comment
  | separator read => exact .separator read
  | box read refers => exact .box read (refers.of_growsInto growsInto)
  | connection read => exact .connection read
  | arrow read => exact .arrow read
  | «attribute» read => exact .attribute read

section Progress

variable {text : List Char} {start cursor after : Cursor}

/-- A construct starts with a character, which some constructs share. -/
theorem exists_peek?_of_ahead?
    {construct : Construct}
    (isAhead : Construct.ahead? cursor = some construct) :
    ∃ char, cursor.peek? = some char ∧
      (construct = .comment → char = '#') ∧ (construct = .separator → char = '-') ∧
        (construct = .attribute → Text.isWordChar char = true) := by
  rw [peek?]
  rw [Construct.ahead?] at isAhead
  split at isAhead
  case h_1 =>
    cases isAhead
  case h_8 char rest _ _ _ _ _ _ isRest =>
    refine ⟨char, by rw [isRest]; rfl, ?_⟩
    split at isAhead
    · rename_i isSeparator
      cases isAhead
      refine ⟨by simp, fun _ => ?_, by simp⟩
      simp at isSeparator
      exact isSeparator.2.1.symm
    · split at isAhead
      · cases isAhead
        exact ⟨by simp, by simp, by simp⟩
      · split at isAhead
        · rename_i isWord
          cases isAhead
          exact ⟨by simp, by simp, fun _ => isWord⟩
        · cases isAhead
          exact ⟨by simp, by simp, by simp⟩
  -- All other constructs start with a character of their own.
  all_goals
    rename_i isRest
    cases isAhead
    exact ⟨_, by rw [isRest]; rfl, by simp, by simp, by simp⟩

/-- Where no construct starts the text ends. -/
theorem rest_eq_nil_of_ahead?
    (atEnd : Construct.ahead? cursor = none) :
    cursor.rest = [] := by
  rw [Construct.ahead?] at atEnd
  split at atEnd
  case h_1 isRest =>
    exact isRest
  case h_8 =>
    split at atEnd
    · cases atEnd
    · split at atEnd
      · cases atEnd
      · split at atEnd <;> cases atEnd
  all_goals cases atEnd

/-- A header takes at least one character. -/
theorem leadsTo_of_readHeader
    {kind : Kind}
    {header : Header}
    (stands : cursor.StandsIn text)
    (succeeded : readHeader kind cursor = .ok (header, after)) :
    (cursor.advance 1).LeadsTo after := by
  have isOpener : ∃ count, (headerBrackets kind).1.length = count + 1 := by
    cases kind <;> exact ⟨_, rfl⟩
  rw [readHeader] at succeeded
  generalize headerBrackets kind = brackets at isOpener succeeded
  obtain ⟨opener, closer⟩ := brackets
  obtain ⟨count, isCount⟩ := isOpener
  obtain ⟨⟨path?, afterPath⟩, isPath, succeeded⟩ := bind_eq_ok_iff.mp succeeded
  obtain ⟨⟨attributes, finish⟩, areAttributes, succeeded⟩ := bind_eq_ok_iff.mp succeeded
  dsimp only at isCount isPath areAttributes succeeded
  rw [isCount] at isPath
  have overOpener : (cursor.advance 1).LeadsTo (cursor.advance (count + 1)).skipTrivia :=
    (leadsTo_advance_succ count).trans leadsTo_skipTrivia
  have toPath : cursor.LeadsTo (cursor.advance (count + 1)).skipTrivia :=
    (leadsTo_advance 1).trans overOpener
  obtain ⟨leadsPath, _⟩ := (readHeaderPath_ends (stands.of_leadsTo toPath)).of_ok isPath
  obtain ⟨_, leadsFinish⟩ :=
    (attributesWithin_ends _ stands (toPath.trans leadsPath)).of_ok areAttributes
  split at succeeded
  · cases succeeded
    exact overOpener.trans (leadsPath.trans (leadsFinish.trans (leadsTo_advance _)))
  · cases succeeded

/-- An edge takes its digit, and none if there is no edge. -/
theorem after_of_readEdge?
    {present : Bool}
    {edge : Option Direction}
    (succeeded : readEdge? start cursor present = .ok (edge, after)) :
    after = if present then cursor.advance 1 else cursor := by
  rw [readEdge?] at succeeded
  split at succeeded
  · rename_i isPresent
    rw [if_pos isPresent]
    rw [readEdge] at succeeded
    dsimp only at succeeded
    split at succeeded
    · cases succeeded
      rfl
    · cases succeeded
  · rename_i isAbsent
    cases succeeded
    rw [if_neg isAbsent]

/-- An arrow takes at least one character. -/
theorem leadsTo_of_readArrow
    {arrow : Arrow}
    (succeeded : readArrow cursor = .ok (arrow, after)) :
    (cursor.advance 1).LeadsTo after := by
  have leadsOn {start first last : Cursor} {present : Bool} {edge : Option Direction}
      (isEdge : readEdge? start first present = .ok (edge, last)) : first.LeadsTo last := by
    rw [after_of_readEdge? isEdge]
    split
    · exact leadsTo_advance 1
    · exact .refl first
  rw [readArrow] at succeeded
  obtain ⟨⟨sourceEdge, beforeBody⟩, isSource, succeeded⟩ := bind_eq_ok_iff.mp succeeded
  dsimp only at succeeded
  split at succeeded
  · cases succeeded
  · rename_i someBody
    obtain ⟨⟨targetEdge, last⟩, isTarget, succeeded⟩ := bind_eq_ok_iff.mp succeeded
    cases succeeded
    refine .trans ?_ (leadsOn isTarget)
    -- Either a digit is read first, or the body starts with the first character.
    have isBefore := after_of_readEdge? isSource
    split at isBefore
    · rw [isBefore]
      exact (passes_takeWhile isArrowChar).leadsTo
    · subst beforeBody
      obtain ⟨char, rest, isBody⟩ :
          ∃ char rest, (cursor.takeWhile isArrowChar).1 = char :: rest :=
        List.exists_cons_of_ne_nil (by simpa using someBody)
      have accepted : isArrowChar char = true :=
        List.mem_takeWhile_imp (isBody ▸ List.mem_cons_self)
      have stands : cursor.peek? = some char := by
        rw [peek?, (passes_takeWhile isArrowChar).rest_eq, isBody]
        rfl
      exact leadsTo_skipWhile_of_accept stands accepted

/-- A link in braces takes at least one character. -/
theorem leadsTo_of_readLink
    {container : Address}
    {written : Connection}
    (stands : cursor.StandsIn text)
    (succeeded : readLink container cursor = .ok (written, after)) :
    (cursor.advance 1).LeadsTo after := by
  have toNext : cursor.LeadsTo (cursor.advance 1) := leadsTo_advance 1
  have placed {next : Cursor} (leads : (cursor.advance 1).LeadsTo next) : next.StandsIn text :=
    stands.of_leadsTo (toNext.trans leads)
  rw [readLink] at succeeded
  obtain ⟨⟨source, afterSource⟩, isSource, succeeded⟩ := bind_eq_ok_iff.mp succeeded
  have toSource : (cursor.advance 1).LeadsTo (cursor.advance 1).skipTrivia := leadsTo_skipTrivia
  have toArrow := toSource.trans
    (((readEnd_ends (placed toSource)).of_ok isSource).2.trans leadsTo_skipTrivia)
  dsimp only at succeeded
  split at succeeded
  · cases succeeded
  · obtain ⟨⟨arrow, afterArrow⟩, isArrow, succeeded⟩ := bind_eq_ok_iff.mp succeeded
    have toTarget := toArrow.trans
      (((readArrow_ends (placed toArrow)).of_ok isArrow).trans leadsTo_skipTrivia)
    dsimp only at succeeded
    split at succeeded
    · cases succeeded
    · obtain ⟨⟨target, afterTarget⟩, isTarget, succeeded⟩ := bind_eq_ok_iff.mp succeeded
      have toAttributes := toTarget.trans ((readEnd_ends (placed toTarget)).of_ok isTarget).2
      obtain ⟨⟨attributes, finish⟩, areAttributes, succeeded⟩ := bind_eq_ok_iff.mp succeeded
      have toFinish := toAttributes.trans
        ((attributesWithin_ends _ stands (toNext.trans toAttributes)).of_ok areAttributes).2
      cases succeeded
      exact toFinish.trans (leadsTo_advance 1)

/-- An attribute takes at least one character. -/
theorem leadsTo_of_readAttribute
    {written : Attribute}
    {char : Char}
    (stands : cursor.StandsIn text)
    (isFirst : cursor.peek? = some char)
    (isWord : Text.isWordChar char = true)
    (succeeded : readAttribute cursor = .ok (written, after)) :
    (cursor.advance 1).LeadsTo after := by
  have overKey := leadsTo_skipWhile_of_accept isFirst isWord
  have toKey : cursor.LeadsTo (cursor.skipWhile Text.isWordChar) :=
    (leadsTo_advance 1).trans overKey
  rw [readAttribute] at succeeded
  dsimp only at succeeded
  split at succeeded
  · obtain ⟨⟨value, last⟩, isValue, succeeded⟩ := bind_eq_ok_iff.mp succeeded
    cases succeeded
    have toValue := toKey.trans (leadsTo_advance 1)
    obtain ⟨under, _, passes⟩ := (attributeValue_ends _ stands toValue).of_ok isValue
    exact overKey.trans ((leadsTo_advance 1).trans passes.leadsTo)
  · cases succeeded
    exact overKey

/-- Each construct leads past its first character. -/
theorem Construct.Yields.leadsTo
    {root : Box}
    {container opened : Address}
    {construct : Construct}
    {items : List Item}
    (yields : construct.Yields root container cursor items opened after)
    (isAhead : Construct.ahead? cursor = some construct)
    (stands : cursor.StandsIn text) :
    (cursor.advance 1).LeadsTo after := by
  obtain ⟨char, isFirst, isHash, isDash, isWord⟩ := exists_peek?_of_ahead? isAhead
  cases yields with
  | lineEnd =>
      exact .refl _
  | comment =>
      exact leadsTo_skipWhile_of_accept isFirst (by simp [isHash rfl])
  | separator read =>
      have overDashes : (cursor.advance 1).LeadsTo (cursor.skipWhile (· == '-')) :=
        leadsTo_skipWhile_of_accept isFirst (by simp [isDash rfl])
      have standsNext := stands.of_leadsTo ((leadsTo_advance 1).trans overDashes)
      exact overDashes.trans ((attributesOnLine_ends _ standsNext).of_ok read).2
  | box read _ =>
      exact leadsTo_of_readHeader stands read
  | connection read =>
      exact leadsTo_of_readLink stands read
  | arrow read =>
      exact leadsTo_of_readArrow read
  | «attribute» read =>
      exact leadsTo_of_readAttribute stands isFirst (isWord rfl) read

/-- After each construct less of the text is left. -/
theorem Construct.Yields.length_lt
    {root : Box}
    {container opened : Address}
    {construct : Construct}
    {items : List Item}
    (yields : construct.Yields root container cursor items opened after)
    (isAhead : Construct.ahead? cursor = some construct)
    (stands : cursor.StandsIn text) :
    after.rest.length < cursor.rest.length := by
  obtain ⟨char, isFirst, _⟩ := exists_peek?_of_ahead? isAhead
  exact Nat.lt_of_le_of_lt (yields.leadsTo isAhead stands).length_le (length_advance_one isFirst)

end Progress

namespace Reader

variable {text : List Char} {reader next : Reader} {kind : Kind}

/-- The header at the cursor ends at a place; the tree grows by it and has its box at an address. -/
structure Declares
    (reader : Reader)
    (kind : Kind)
    (header : Header)
    (root : Box)
    (address : Address)
    (after : Cursor) : Prop where
  read : readHeader kind reader.cursor = .ok (header, after)
  isDeclared : declare reader.outline.root reader.container header = .ok (root, address)
  nonempty : ∀ path, header.path = some path → path.segments ≠ []
  refers : header.RefersTo root reader.container address
  growsInto : reader.outline.root.GrowsInto root

/-- A box that is read is that of a header, and remembered until the next construct. -/
theorem exists_of_readBox
    (sound : reader.IsSound)
    (written : reader.IsWrittenIn text)
    (isAhead : Construct.ahead? reader.cursor = some (.box kind))
    (succeeded : reader.readBox kind = .ok next) :
    ∃ header root address after,
      reader.Declares kind header root address after ∧
        next = { reader with
          cursor := after
          outline := { reader.outline with
            root := root
            connections := reader.outline.connections ++
              reader.pending.toList.map (·.connect ⟨address, header.span, header.position⟩) }
          container := if kind.isContainer then address else reader.container
          preamble := false
          lastBox := some ⟨address, header.span, header.position⟩
          pending := none } := by
  rw [readBox] at succeeded
  obtain ⟨⟨header, after⟩, read, succeeded⟩ := bind_eq_ok_iff.mp succeeded
  obtain ⟨⟨root, address⟩, isDeclared, succeeded⟩ := bind_eq_ok_iff.mp succeeded
  cases succeeded
  obtain ⟨parent, found, _⟩ := sound.container
  obtain ⟨headerWritten, _, _⟩ :=
    (readHeader_ends kind written.cursor (opens_of_ahead? isAhead)).of_ok read
  have nonempty : ∀ path, header.path = some path → path.segments ≠ [] :=
    fun path hasPath => (headerWritten.path path hasPath).segments_ne_nil
  obtain ⟨growsInto, refers⟩ :=
    refersTo_of_declare sound.outline.boxes found nonempty isDeclared
  exact ⟨header, root, address, after, ⟨read, isDeclared, nonempty, refers, growsInto⟩, rfl⟩

/-- The tree grows into one whose root has the attributes of a separator line. -/
theorem growsInto_configuredRoot
    (reader : Reader)
    (attributes : List Attribute)
    (after : Cursor) :
    reader.outline.root.GrowsInto (reader.configuredRoot attributes after) :=
  .redeclared (Box.at?_nil _) (reader.keeps_configuredRoot attributes after) rfl fun _ => rfl

end Reader

end Outline

end BoxDiagram
