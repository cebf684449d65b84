import BoxDiagram.Proofs.Outline.Reader
import BoxDiagram.Proofs.Outline.Written

namespace BoxDiagram

open Attempt (Ends FailsOnly)
open Text (Locates)

/-!
# All places in an outline are places of the text

The reader only moves forward, and whatever it remembers was read from places before the
one where it stands: the tree and the links, the line that configured the root, the last
box and the box before an arrow.  One construct keeps this and fails only with an error
that points into the text, and so does a whole run.
-/

namespace Outline

/-- A link stands where it starts, so do its ends, and its attributes are written. -/
structure Connection.IsWrittenIn (text : List Char) (written : Connection) : Prop where
  locates : Locates text written.span written.position
  source : Locates text written.source.span written.source.position
  target : Locates text written.target.span written.target.position
  attributes : ∀ one ∈ written.attributes, one.IsWrittenIn text

/-- A box that was read starts before a place of the text, or at it. -/
structure Mention.StandsBefore
    (text : List Char)
    (cursor : Cursor)
    (mention : Mention) : Prop where
  locates : Locates text mention.span mention.position
  start_le : mention.span.start ≤ cursor.offset

/-- What stands before a cursor stands before where it leads. -/
theorem Mention.StandsBefore.of_leadsTo
    {text : List Char}
    {cursor next : Cursor}
    {mention : Mention}
    (stands : mention.StandsBefore text cursor)
    (leads : cursor.LeadsTo next) :
    mention.StandsBefore text next where
  locates := stands.locates
  start_le := Nat.le_trans stands.start_le leads.offset_le

/-- An arrow joins two boxes, the second of which starts where the first one does or later. -/
theorem Pending.isWrittenIn_connect
    {text : List Char}
    {pending : Pending}
    {target : Mention}
    (source : Locates text pending.source.span pending.source.position)
    (isTarget : Locates text target.span target.position)
    (inOrder : pending.source.span.start ≤ target.span.start) :
    (pending.connect target).IsWrittenIn text where
  locates := source.union isTarget.exists_covers inOrder
  source := source
  target := isTarget
  attributes := by
    rintro one ⟨⟩

end Outline

/-- Everything of which an outline tells stands in a text where the outline says. -/
structure Outline.IsWrittenIn (text : List Char) (outline : Outline) : Prop where
  attributes : ∀ one ∈ outline.attributes, one.IsWrittenIn text
  boxes : outline.root.IsWrittenIn text
  connections : ∀ connection ∈ outline.connections, connection.IsWrittenIn text

/-- All places of a written outline are places of the text. -/
theorem Outline.IsWrittenIn.isKnown
    {text : List Char}
    {outline : Outline}
    (written : outline.IsWrittenIn text) :
    outline.IsKnown (Locates text) where
  attributes one member := (written.attributes one member).isKnown
  boxes := written.boxes.isKnown
  connections connection member := by
    obtain ⟨locates, source, target, attributes⟩ := written.connections connection member
    exact ⟨locates, source, target, fun one member => (attributes one member).isKnown⟩

/-- The empty outline is written in every text. -/
theorem Outline.isWrittenIn_empty
    (text : List Char) :
    Outline.empty.IsWrittenIn text where
  attributes _ member := absurd member List.not_mem_nil
  boxes := Box.isWrittenIn_root text
  connections _ member := absurd member List.not_mem_nil

namespace Outline.Reader

/-- All that the reader remembers stands in the text before the place where it is. -/
structure IsWrittenIn (text : List Char) (reader : Reader) : Prop where
  cursor : reader.cursor.StandsIn text
  outline : reader.outline.IsWrittenIn text
  rootSettings :
    ∀ span, reader.rootSettings = some span → ∃ position, Locates text span position
  lastBox :
    ∀ mention, reader.lastBox = some mention → mention.StandsBefore text reader.cursor
  pending :
    ∀ pending, reader.pending = some pending →
      pending.source.StandsBefore text reader.cursor ∧
        Locates text pending.span pending.position

variable {text : List Char} {reader : Reader} {parent : Box}

/-- Nothing is read yet that would not be in the text. -/
theorem isWrittenIn_start
    (text : List Char) :
    (start text).IsWrittenIn text where
  cursor := Cursor.standsIn_start text
  outline := isWrittenIn_empty text
  rootSettings := by
    rintro span ⟨⟩
  lastBox := by
    rintro mention ⟨⟩
  pending := by
    rintro pending ⟨⟩

/-- Moving the cursor changes nothing that was written. -/
theorem IsWrittenIn.move
    {next : Cursor}
    (written : reader.IsWrittenIn text)
    (leads : reader.cursor.LeadsTo next) :
    { reader with cursor := next }.IsWrittenIn text where
  cursor := written.cursor.of_leadsTo leads
  outline := written.outline
  rootSettings := written.rootSettings
  lastBox mention isLast := (written.lastBox mention isLast).of_leadsTo leads
  pending pending isPending := by
    obtain ⟨source, locates⟩ := written.pending pending isPending
    exact ⟨source.of_leadsTo leads, locates⟩

theorem requireNoPending_ends
    (written : reader.IsWrittenIn text) :
    Ends (fun _ => reader.pending = none) (Diagnostic.IsPlacedIn text)
      reader.requireNoPending := by
  rw [requireNoPending]
  split
  · rename_i pending isPending
    obtain ⟨_, locates⟩ := written.pending pending isPending
    exact .error (((Diagnostic.isAbout_mark_locate _ _ _ locates).advise _).isPlacedIn
      (by rintro ⟨⟩))
  · rename_i isNone
    exact .ok isNone

/-- A separator is written in the text, or its failure is placed in it. -/
theorem readSeparator_ends
    (written : reader.IsWrittenIn text) :
    Ends (IsWrittenIn text) (Diagnostic.IsPlacedIn text) reader.readSeparator := by
  rw [readSeparator]
  refine .bind (requireNoPending_ends written) fun _ _ => ?_
  have skips : reader.cursor.LeadsTo (reader.cursor.skipWhile (· == '-')) :=
    Cursor.leadsTo_skipWhile _
  refine .bind (attributesOnLine_ends _ (written.cursor.of_leadsTo skips)) ?_
  rintro ⟨attributes, finish⟩ ⟨areWritten, leadsOn⟩
  have leads := skips.trans leadsOn
  have moved := written.move leads
  have locates := Cursor.locates_spanTo written.cursor leads
  dsimp only
  split
  · refine .ok ⟨moved.cursor, moved.outline, moved.rootSettings, ?_, moved.pending⟩
    rintro mention ⟨⟩
  · rename_i someAttributes
    split
    · rename_i first isFirst
      obtain ⟨position, isKnown⟩ := written.rootSettings first isFirst
      exact .error ((((Diagnostic.isAbout_mark_locate _ _ _ locates).relate _ isKnown).advise
        _).isPlacedIn (by rintro ⟨⟩))
    · refine .ok ⟨moved.cursor, ⟨moved.outline.attributes, ?_, moved.outline.connections⟩, ?_,
        ?_, moved.pending⟩
      · refine ⟨locates, areWritten, fun isEmpty => ?_, ?_⟩
        · exact absurd (List.isEmpty_iff.mpr isEmpty) someAttributes
        · intro address box inner found
          refine moved.outline.boxes.below address box inner ?_
          cases address with
          | nil =>
              exact absurd rfl inner
          | cons index rest =>
              rwa [Box.at?_cons] at found ⊢
      · rintro span ⟨⟩
        exact ⟨_, locates⟩
      · rintro mention ⟨⟩

/-- The construct ahead is a box only where its opening bracket stands. -/
theorem opens_of_ahead?
    {cursor : Cursor}
    {kind : Kind}
    (isAhead : Construct.ahead? cursor = some (.box kind)) :
    (headerBrackets kind).1 <+: cursor.rest := by
  rw [Construct.ahead?] at isAhead
  split at isAhead
  · cases isAhead
  · cases isAhead
  · cases isAhead
  · rename_i rest isRest
    cases isAhead
    exact ⟨rest, isRest.symm⟩
  · rename_i rest _ isRest
    cases isAhead
    exact ⟨rest, isRest.symm⟩
  · rename_i rest isRest
    cases isAhead
    exact ⟨rest, isRest.symm⟩
  · cases isAhead
  · split at isAhead
    · cases isAhead
    · split at isAhead
      · cases isAhead
      · split at isAhead
        · cases isAhead
        · cases isAhead

/-- A box is written in the text, or its failure is placed in it. -/
theorem readBox_ends
    {kind : Kind}
    (written : reader.IsWrittenIn text)
    (found : reader.outline.root.at? reader.container = some parent)
    (opens : (headerBrackets kind).1 <+: reader.cursor.rest) :
    Ends (IsWrittenIn text) (Diagnostic.IsPlacedIn text) (reader.readBox kind) := by
  rw [readBox]
  refine .bind (readHeader_ends kind written.cursor opens) ?_
  rintro ⟨header, after⟩ ⟨headerWritten, leads, isStart⟩
  refine .bind (declare_ends headerWritten written.outline.boxes found) ?_
  rintro ⟨root, address⟩ rootWritten
  have locates := headerWritten.brackets.locates
  have moved := written.move leads
  refine .ok ⟨moved.cursor, ⟨moved.outline.attributes, rootWritten, ?_⟩, moved.rootSettings,
    ?_, ?_⟩
  · intro connection member
    rcases List.mem_append.mp member with wasThere | isNew
    · exact moved.outline.connections connection wasThere
    · obtain ⟨pending, isPending, rfl⟩ := List.mem_map.mp isNew
      obtain ⟨source, _⟩ := written.pending pending (Option.mem_toList.mp isPending)
      exact Pending.isWrittenIn_connect source.locates locates (isStart ▸ source.start_le)
  · rintro mention ⟨⟩
    exact ⟨locates, isStart ▸ leads.offset_le⟩
  · rintro pending ⟨⟩

/-- Links in braces are written in the text, or their failure is placed in it. -/
theorem readConnection_ends
    (written : reader.IsWrittenIn text) :
    Ends (IsWrittenIn text) (Diagnostic.IsPlacedIn text) reader.readConnection := by
  have stands {next : Cursor} (leads : reader.cursor.LeadsTo next) : next.StandsIn text :=
    written.cursor.of_leadsTo leads
  have incomplete {next : Cursor} (leads : reader.cursor.LeadsTo next) (message : String) :
      (reader.cursor.fail .unexpectedConstruct message (reader.cursor.spanTo next)
        "incomplete link").IsPlacedIn text :=
    Cursor.isPlacedIn_fail written.cursor leads (by decide) _ _
  rw [readConnection]
  refine .bind (requireNoPending_ends written) fun _ _ => ?_
  have toSource : reader.cursor.LeadsTo (reader.cursor.advance 1).skipTrivia :=
    (Cursor.leadsTo_advance 1).trans Cursor.leadsTo_skipTrivia
  refine .bind (readEnd_ends (stands toSource)) ?_
  rintro ⟨source, afterSource⟩ ⟨sourceLocates, leads⟩
  have toArrow := toSource.trans (leads.trans Cursor.leadsTo_skipTrivia)
  dsimp only
  split
  · exact .error (incomplete toArrow _)
  · refine .bind (readArrow_ends (stands toArrow)) ?_
    rintro ⟨arrow, afterArrow⟩ leads
    have toTarget := toArrow.trans (leads.trans Cursor.leadsTo_skipTrivia)
    dsimp only
    split
    · exact .error (incomplete toTarget _)
    · refine .bind (readEnd_ends (stands toTarget)) ?_
      rintro ⟨target, afterTarget⟩ ⟨targetLocates, leads⟩
      have toAttributes := toTarget.trans leads
      refine .bind (attributesWithin_ends _ written.cursor toAttributes) ?_
      rintro ⟨attributes, finish⟩ ⟨areWritten, leads⟩
      have toEnd := toAttributes.trans (leads.trans (Cursor.leadsTo_advance 1))
      have moved := written.move toEnd
      have locates := Cursor.locates_spanTo written.cursor toEnd
      refine .ok ⟨moved.cursor, ⟨moved.outline.attributes, moved.outline.boxes, ?_⟩,
        moved.rootSettings, ?_, moved.pending⟩
      · intro connection member
        rcases List.mem_append.mp member with wasThere | isNew
        · exact moved.outline.connections connection wasThere
        · obtain rfl := List.mem_singleton.mp isNew
          exact ⟨locates, sourceLocates, targetLocates, areWritten⟩
      · rintro mention ⟨⟩

/-- An arrow is written in the text, or its failure is placed in it. -/
theorem readPending_ends
    (written : reader.IsWrittenIn text) :
    Ends (IsWrittenIn text) (Diagnostic.IsPlacedIn text) reader.readPending := by
  rw [readPending]
  split
  · exact .error (Cursor.isPlacedIn_fail_advise written.cursor (Cursor.leadsTo_skipWhile _)
      (by decide) _ _ _)
  · rename_i source isLast
    refine .bind (readArrow_ends written.cursor) ?_
    rintro ⟨arrow, after⟩ leads
    have moved := written.move leads
    refine .ok ⟨moved.cursor, moved.outline, moved.rootSettings, ?_, ?_⟩
    · rintro mention ⟨⟩
    · rintro pending ⟨⟩
      exact ⟨moved.lastBox source isLast, Cursor.locates_spanTo written.cursor leads⟩

/-- An attribute is written in the text, or its failure is placed in it. -/
theorem readDocumentAttribute_ends
    (written : reader.IsWrittenIn text) :
    Ends (IsWrittenIn text) (Diagnostic.IsPlacedIn text) reader.readDocumentAttribute := by
  rw [readDocumentAttribute]
  split
  · refine .bind (readAttribute_ends written.cursor) ?_
    rintro ⟨first, after⟩ ⟨isWritten, leads⟩
    have moved := written.move leads
    refine .ok ⟨moved.cursor, ⟨?_, moved.outline.boxes, moved.outline.connections⟩,
      moved.rootSettings, moved.lastBox, moved.pending⟩
    intro one member
    rcases List.mem_append.mp member with wasThere | isNew
    · exact moved.outline.attributes one wasThere
    · obtain rfl := List.mem_singleton.mp isNew
      exact isWritten
  · exact .error (Cursor.isPlacedIn_fail_advise written.cursor (Cursor.leadsTo_skipWhile _)
      (by decide) _ _ _)

/-- Reading the construct ahead keeps all places in the text, and fails only with a placed error. -/
theorem readConstruct_ends
    {construct : Construct}
    (written : reader.IsWrittenIn text)
    (found : reader.outline.root.at? reader.container = some parent)
    (isAhead : Construct.ahead? reader.cursor = some construct) :
    Ends (IsWrittenIn text) (Diagnostic.IsPlacedIn text) (reader.readConstruct construct) := by
  cases construct with
  | lineEnd =>
      exact .ok (written.move (Cursor.leadsTo_advance 1))
  | comment =>
      exact .ok (written.move Cursor.leadsTo_skipComment)
  | separator =>
      exact readSeparator_ends written
  | box kind =>
      exact readBox_ends written found (opens_of_ahead? isAhead)
  | connection =>
      exact readConnection_ends written
  | arrow =>
      exact readPending_ends written
  | «attribute» =>
      exact readDocumentAttribute_ends written
  | unknown =>
      exact .error (Cursor.isPlacedIn_unexpected written.cursor _)

/-- However many constructs are read, all places stay in the text. -/
theorem readConstructs_ends
    {limit : Nat}
    (sound : reader.IsSound)
    (written : reader.IsWrittenIn text) :
    Ends (IsWrittenIn text) (Diagnostic.IsPlacedIn text) (reader.readConstructs limit) := by
  induction limit generalizing reader with
  | zero =>
      exact .ok written
  | succ limit inductionHypothesis =>
      have moved : reader.skipGaps.IsWrittenIn text := written.move Cursor.leadsTo_skipGaps
      rw [readConstructs]
      split
      · exact .ok moved
      · rename_i construct isAhead
        -- A header is declared in the open container, which is in the tree of a sound state.
        obtain ⟨parent, found, _⟩ := sound.container
        have first := readConstruct_ends moved found isAhead
        split
        · rename_i advanced
          exact inductionHypothesis (isSound_of_readConstruct sound.skipGaps advanced).1
            (first.of_ok advanced)
        · rename_i failed
          exact .error (first.failsOnly.of_eq failed)

end Outline.Reader

namespace Outline

/-- A text gives an outline that is written in it, or an error that points into it. -/
theorem ofNormalized_ends
    (text : List Char) :
    Ends (IsWrittenIn text) (Diagnostic.IsPlacedIn text) (ofNormalized text) := by
  refine .bind (Reader.readConstructs_ends (Reader.isSound_start text)
    (Reader.isWrittenIn_start text)) fun reader written => ?_
  exact .bind (Reader.requireNoPending_ends written) fun _ _ => .ok written.outline

/-- Reading a text fails only with an error about a place of the text. -/
theorem read_failsOnly
    (source : String) :
    FailsOnly Diagnostic.IsLocated (Outline.read source) :=
  (ofNormalized_ends _).failsOnly.imp fun _ placed => placed.toIsLocated

/--
Every attribute, box, link and end of an outline that is read covers whole characters of the
text with uniform line ends, and its position is the line and the column of the first of
them.  A box other than the root covers its brackets and an attribute exactly what is written
for it; a root without attributes has the empty place at the beginning.
-/
theorem isWrittenIn_of_read
    {source : String}
    {outline : Outline}
    (succeeded : Outline.read source = .ok outline) :
    outline.IsWrittenIn (Text.normalizeNewlines source.toList) :=
  (ofNormalized_ends _).of_ok succeeded

/-- Characters of two bytes, a mentioned box, and a link after a name with a line end in it. -/
theorem exists_isWrittenIn_of_read :
    ∃ outline,
      Outline.read "é=1\r\n--- w=\"\\\"ö\"\n[a.\"ü\r\n\" b]\n(.c) -> (d)" = .ok outline ∧
        outline.IsWrittenIn
          (Text.normalizeNewlines
            "é=1\r\n--- w=\"\\\"ö\"\n[a.\"ü\r\n\" b]\n(.c) -> (d)".toList) ∧
        outline.root.attributes.map (fun one => (one.span.start, one.span.stop, one.position)) ++
            (outline.root.at? [0]).toList.map
              (fun box => (box.span.start, box.span.stop, box.position)) ++
            outline.connections.map
              (fun link => (link.span.start, link.span.stop, link.target.position)) =
          [(9, 17, ⟨2, 5⟩), (18, 29, ⟨3, 1⟩), (30, 41, ⟨5, 9⟩)] := by
  have read :
      (Outline.read "é=1\r\n--- w=\"\\\"ö\"\n[a.\"ü\r\n\" b]\n(.c) -> (d)").toOption.map
          (fun outline =>
            outline.root.attributes.map
                (fun one => (one.span.start, one.span.stop, one.position)) ++
              (outline.root.at? [0]).toList.map
                (fun box => (box.span.start, box.span.stop, box.position)) ++
              outline.connections.map
                (fun link => (link.span.start, link.span.stop, link.target.position))) =
        some [(9, 17, ⟨2, 5⟩), (18, 29, ⟨3, 1⟩), (30, 41, ⟨5, 9⟩)] := by
    decide +kernel
  obtain ⟨outline, isRead, places⟩ := Option.map_eq_some_iff.mp read
  have isRead := Attempt.toOption_eq_some_iff.mp isRead
  exact ⟨outline, isRead, isWrittenIn_of_read isRead, places⟩

end Outline

end BoxDiagram
