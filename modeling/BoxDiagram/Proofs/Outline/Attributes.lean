import BoxDiagram.Proofs.Outline.Constructs
import BoxDiagram.Proofs.Outline.Given

namespace BoxDiagram

open Attempt (bind_eq_ok_iff)

/-!
# Attributes are given once and never lost

Headers give attributes to boxes and separator lines give them to the root, in any order
and from any container.  Each construct leaves what was given before and adds what it
gives, so the boxes of an outline have what the constructs of its text give them, each
from one construct at most.
-/

namespace Outline

/-- What an item gives to the box at an address: a header to its box, a separator to the root. -/
def Item.givenTo (address : Address) : Item → List (List Attribute)
  | .box header target => if address = target then given header.attributes else []
  | .separator attributes => if address = [] then given attributes else []
  | _ => []

/-- A tree grows, and its boxes gain what items give to them.  No header gives to the root. -/
structure Box.Gains (root : Box) (items : List Item) (later : Box) : Prop where
  growsInto : root.GrowsInto later
  given :
    ∀ address,
      later.givenAt address = root.givenAt address ++ items.flatMap (·.givenTo address)
  inner : ∀ header address, .box header address ∈ items → address ≠ []

namespace Box.Gains

variable {root middle later : Box} {items others : List Item}

/-- Items that give nothing leave a tree as it was. -/
theorem of_nothing
    (givesNothing : ∀ address, items.flatMap (·.givenTo address) = [])
    (noBox : ∀ header address, .box header address ∉ items) :
    root.Gains items root where
  growsInto := .refl root
  given address := by rw [givesNothing, List.append_nil]
  inner header address member := absurd member (noBox header address)

/-- What is gained in two steps is gained by both together. -/
theorem append
    (first : root.Gains items middle)
    (second : middle.Gains others later) :
    root.Gains (items ++ others) later where
  growsInto := first.growsInto.trans second.growsInto
  given address := by
    rw [second.given, first.given, List.flatMap_append, List.append_assoc]
  inner header address member := by
    rcases List.mem_append.mp member with isFirst | isSecond
    · exact first.inner header address isFirst
    · exact second.inner header address isSecond

end Box.Gains

namespace Reader

/-- The reader remembers a line that configured the root exactly if the root has attributes. -/
def KnowsSettings (reader : Reader) : Prop :=
  reader.rootSettings = none ↔ reader.outline.root.attributes = []

/-- One construct yields items, and the tree gains what they give. -/
structure Furnishes
    (reader next : Reader)
    (construct : Construct)
    (items : List Item) : Prop where
  yields :
    construct.Yields next.outline.root reader.container reader.cursor items next.container
      next.cursor
  gains : reader.outline.root.Gains items next.outline.root
  settings : next.KnowsSettings

variable {text : List Char} {reader next later : Reader} {construct : Construct}

/-- A construct that gives nothing leaves all attributes as they were. -/
theorem Furnishes.of_root_eq
    {items : List Item}
    (settings : reader.KnowsSettings)
    (sameRoot : next.outline.root = reader.outline.root)
    (sameSettings : next.rootSettings = reader.rootSettings)
    (yields :
      construct.Yields reader.outline.root reader.container reader.cursor items next.container
        next.cursor)
    (givesNothing : ∀ address, items.flatMap (·.givenTo address) = [])
    (noBox : ∀ header address, .box header address ∉ items) :
    reader.Furnishes next construct items where
  yields := sameRoot ▸ yields
  gains := sameRoot ▸ .of_nothing givesNothing noBox
  settings := by rw [KnowsSettings, sameRoot, sameSettings, ← KnowsSettings]; exact settings

/-- A separator line gives its attributes to the root, which has none before. -/
theorem furnishes_of_readSeparator
    (settings : reader.KnowsSettings)
    (succeeded : reader.readSeparator = .ok next) :
    ∃ items, reader.Furnishes next .separator items := by
  obtain ⟨_, attributes, after, read, ⟨rfl, rfl⟩ | ⟨isFurnished, unconfigured, rfl⟩⟩ :=
    cases_of_readSeparator succeeded
  · refine ⟨_, .of_root_eq settings rfl rfl (.separator read) ?_ (by simp)⟩
    simp [Item.givenTo]
  · have gives : given attributes = given reader.outline.root.attributes ++ given attributes := by
      rw [settings.mp unconfigured, given_nil, List.nil_append]
    refine ⟨_, .separator read,
      ⟨reader.growsInto_configuredRoot attributes after, ?_, by simp⟩, ?_⟩
    · intro address
      have gained := Box.givenAt_redeclare (Box.at?_nil _)
        (reader.keeps_configuredRoot attributes after) rfl gives address
      simpa [configured, Box.modifyAt, Item.givenTo] using gained
    · simpa [KnowsSettings, configured, configuredRoot] using isFurnished

/-- A header gives its attributes to the box to which it refers, which is not the root. -/
theorem furnishes_of_readBox
    {kind : Kind}
    (sound : reader.IsSound)
    (written : reader.IsWrittenIn text)
    (settings : reader.KnowsSettings)
    (isAhead : Construct.ahead? reader.cursor = some (.box kind))
    (succeeded : reader.readBox kind = .ok next) :
    ∃ items, reader.Furnishes next (.box kind) items := by
  obtain ⟨header, root, address, after, declares, rfl⟩ :=
    exists_of_readBox sound written isAhead succeeded
  obtain ⟨parent, found, _⟩ := sound.container
  have inner := declares.refers.address_ne_nil declares.nonempty
  have gained :=
    givenAt_of_declare sound.outline.boxes found declares.nonempty declares.isDeclared
  refine ⟨_, .box declares.read declares.refers, ⟨declares.growsInto, ?_, ?_⟩, ?_⟩
  · intro other
    simpa [Item.givenTo] using gained other
  · intro other target member
    obtain ⟨_, rfl⟩ : other = header ∧ target = address := by simpa using member
    exact inner
  · have rootGained := gained []
    rw [if_neg inner.symm, List.append_nil, Box.givenAt_of_found (Box.at?_nil _),
      Box.givenAt_of_found (Box.at?_nil _)] at rootGained
    rw [KnowsSettings]
    dsimp only
    rw [← given_eq_nil_iff, rootGained, given_eq_nil_iff]
    exact settings

/-- What the reader knows is right, and lies in its tree and in its text. -/
structure IsConsistent (text : List Char) (reader : Reader) : Prop where
  sound : reader.IsSound
  written : reader.IsWrittenIn text
  settings : reader.KnowsSettings

/-- Before the first construct, what was read agrees with what was kept. -/
theorem isConsistent_start
    (text : List Char) :
    (start text).IsConsistent text :=
  ⟨isSound_start text, isWrittenIn_start text, ⟨fun _ => rfl, fun _ => rfl⟩⟩

/-- Gaps change nothing that was read. -/
theorem IsConsistent.skipGaps
    (consistent : reader.IsConsistent text) :
    reader.skipGaps.IsConsistent text :=
  ⟨consistent.sound.skipGaps, consistent.written.move Cursor.leadsTo_skipGaps,
    consistent.settings⟩

/-- Each construct gives its attributes to the box or the text that it is about. -/
theorem furnishes_of_readConstruct
    (consistent : reader.IsConsistent text)
    (isAhead : Construct.ahead? reader.cursor = some construct)
    (succeeded : reader.readConstruct construct = .ok next) :
    ∃ items, reader.Furnishes next construct items := by
  obtain ⟨sound, written, settings⟩ := consistent
  cases construct with
  | lineEnd =>
      cases succeeded
      exact ⟨_, .of_root_eq settings rfl rfl .lineEnd (by simp) (by simp)⟩
  | comment =>
      cases succeeded
      exact ⟨_, .of_root_eq settings rfl rfl .comment (by simp) (by simp)⟩
  | separator =>
      exact furnishes_of_readSeparator settings succeeded
  | box kind =>
      exact furnishes_of_readBox sound written settings isAhead succeeded
  | connection =>
      rw [readConstruct, readConnection_eq] at succeeded
      obtain ⟨_, _, succeeded⟩ := bind_eq_ok_iff.mp succeeded
      obtain ⟨⟨connection, after⟩, read, succeeded⟩ := bind_eq_ok_iff.mp succeeded
      cases succeeded
      exact ⟨_, .of_root_eq settings rfl rfl (.connection read) (by simp [Item.givenTo]) (by simp)⟩
  | arrow =>
      rw [readConstruct, readPending] at succeeded
      split at succeeded
      · cases succeeded
      · obtain ⟨⟨arrow, after⟩, read, succeeded⟩ := bind_eq_ok_iff.mp succeeded
        cases succeeded
        exact ⟨_, .of_root_eq settings rfl rfl (.arrow read) (by simp [Item.givenTo]) (by simp)⟩
  | «attribute» =>
      rw [readConstruct, readDocumentAttribute] at succeeded
      split at succeeded
      · obtain ⟨⟨first, after⟩, read, succeeded⟩ := bind_eq_ok_iff.mp succeeded
        cases succeeded
        exact ⟨_, .of_root_eq settings rfl rfl (.attribute read) (by simp [Item.givenTo]) (by simp)⟩
      · cases succeeded
  | unknown =>
      cases succeeded

/-- One construct leaves a consistent state, and its items give what the tree gains. -/
theorem IsConsistent.readNext
    (consistent : reader.IsConsistent text)
    (isAhead : Construct.ahead? reader.skipGaps.cursor = some construct)
    (succeeded : reader.skipGaps.readConstruct construct = .ok next) :
    next.IsConsistent text ∧ next.cursor.rest.length < reader.cursor.rest.length ∧
      ∃ items, reader.skipGaps.Furnishes next construct items := by
  have skipped := consistent.skipGaps
  obtain ⟨items, furnishes⟩ := furnishes_of_readConstruct skipped isAhead succeeded
  obtain ⟨parent, found, _⟩ := consistent.sound.container
  have nextConsistent : next.IsConsistent text :=
    ⟨(isSound_of_readConstruct skipped.sound succeeded).1,
      (readConstruct_ends skipped.written found isAhead).of_ok succeeded, furnishes.settings⟩
  have shorter : next.cursor.rest.length < reader.cursor.rest.length :=
    Nat.lt_of_lt_of_le (furnishes.yields.length_lt isAhead skipped.written.cursor)
      Cursor.leadsTo_skipGaps.length_le
  exact ⟨nextConsistent, shorter, items, furnishes⟩

/-- At every state between constructs, what was read agrees with what was kept. -/
theorem IsConsistent.of_reaches
    (consistent : reader.IsConsistent text)
    (reaches : reader.Reaches later) :
    later.IsConsistent text := by
  induction reaches with
  | refl =>
      exact consistent
  | tail _ advances inductionHypothesis =>
      obtain ⟨construct, isAhead, succeeded⟩ := advances
      exact (inductionHypothesis.readNext isAhead succeeded).1

/-- A run to the end of the text reads all items that stand there, and gains what they give. -/
theorem gains_of_readConstructs
    {limit : Nat}
    {last : Reader}
    (consistent : reader.IsConsistent text)
    (enough : reader.cursor.rest.length < limit)
    (succeeded : reader.readConstructs limit = .ok last) :
    ∃ items, Scans last.outline.root reader.container reader.cursor items ∧
      reader.outline.root.Gains items last.outline.root := by
  induction limit generalizing reader with
  | zero =>
      exact absurd enough (Nat.not_lt_zero _)
  | succ limit inductionHypothesis =>
      rw [readConstructs] at succeeded
      split at succeeded
      · rename_i atEnd
        cases succeeded
        exact ⟨[], .finish (rest_eq_nil_of_ahead? atEnd), .of_nothing (by simp) (by simp)⟩
      · rename_i construct isAhead
        split at succeeded
        · rename_i next advanced
          obtain ⟨nextConsistent, shorter, items, furnishes⟩ :=
            consistent.readNext isAhead advanced
          obtain ⟨others, scans, gains⟩ :=
            inductionHypothesis nextConsistent (by omega) succeeded
          exact ⟨items ++ others,
            .next isAhead (furnishes.yields.of_growsInto gains.growsInto) scans,
            furnishes.gains.append gains⟩
        · cases succeeded

/-- A construct that is refused in a state that is reached is the end of the run. -/
theorem readConstructs_eq_error
    {limit : Nat}
    {diagnostic : Diagnostic}
    (consistent : reader.IsConsistent text)
    (reaches : reader.Reaches later)
    (isAhead : Construct.ahead? later.skipGaps.cursor = some construct)
    (refused : later.skipGaps.readConstruct construct = .error diagnostic)
    (enough : reader.cursor.rest.length < limit) :
    reader.readConstructs limit = .error diagnostic := by
  induction reaches using Relation.ReflTransGen.head_induction_on generalizing limit with
  | refl =>
      obtain ⟨limit, rfl⟩ := Nat.exists_eq_add_of_lt enough
      simp only [readConstructs, isAhead, refused]
  | head advances _ inductionHypothesis =>
      obtain ⟨limit, rfl⟩ := Nat.exists_eq_add_of_lt enough
      obtain ⟨first, firstAhead, succeeded⟩ := advances
      obtain ⟨nextConsistent, shorter, _⟩ := consistent.readNext firstAhead succeeded
      simp only [readConstructs, firstAhead, succeeded]
      exact inductionHypothesis nextConsistent (by omega)

/-- The next construct is a header with a path, which leads to a box of its own kind. -/
structure Revisits (reader : Reader) (header : Header) (existing : Box) : Prop where
  isAhead : Construct.ahead? reader.skipGaps.cursor = some (.box header.kind)
  read : ∃ after, readHeader header.kind reader.skipGaps.cursor = .ok (header, after)
  hasPath : ∃ path, header.path = some path
  refers :
    ∃ address, header.RefersTo reader.outline.root reader.container address ∧
      reader.outline.root.at? address = some existing
  sameKind : existing.kind = header.kind

/-- The next construct is a separator line with attributes. -/
structure MeetsSettings (reader : Reader) : Prop where
  isAhead : Construct.ahead? reader.skipGaps.cursor = some .separator
  read :
    ∃ attributes after,
      attributesUntilLineEnd (reader.skipGaps.cursor.skipWhile (· == '-')) =
        .ok (attributes, after) ∧ attributes ≠ []

/-- A box that has attributes refuses more of them. -/
theorem Revisits.readConstruct_eq_error
    {header : Header}
    {existing : Box}
    (sound : reader.IsSound)
    (revisits : reader.Revisits header existing)
    (furnishes : header.attributes ≠ [])
    (isFurnished : existing.attributes ≠ []) :
    reader.skipGaps.readConstruct (.box header.kind) =
      .error (repeatedAttributes header existing) := by
  obtain ⟨after, read⟩ := revisits.read
  obtain ⟨path, hasPath⟩ := revisits.hasPath
  obtain ⟨address, refers, found⟩ := revisits.refers
  rw [readConstruct, readBox, read, Attempt.ok_bind]
  dsimp only [Reader.skipGaps]
  rw [declare_eq_error sound.outline.boxes hasPath refers found revisits.sameKind isFurnished
    furnishes, Attempt.error_bind]

/-- A header that only names an explicit box changes no box. -/
theorem Revisits.root_eq
    {header : Header}
    {existing : Box}
    (sound : reader.IsSound)
    (revisits : reader.Revisits header existing)
    (isPlain : header.attributes = [])
    (isExplicit : existing.implicit = false) :
    ∃ next, reader.skipGaps.readConstruct (.box header.kind) = .ok next ∧
      next.outline.root = reader.outline.root := by
  obtain ⟨after, read⟩ := revisits.read
  obtain ⟨path, hasPath⟩ := revisits.hasPath
  obtain ⟨address, refers, found⟩ := revisits.refers
  rw [readConstruct, readBox, read, Attempt.ok_bind]
  dsimp only [Reader.skipGaps]
  rw [declare_eq_self sound.outline.boxes hasPath refers found isExplicit revisits.sameKind
    isPlain, Attempt.ok_bind]
  exact ⟨_, rfl, rfl⟩

/-- An arrow that waits for its box is missed at a separator line, whatever the line carries. -/
theorem readSeparator_eq_error_of_pending
    {pending : Pending}
    (isPending : reader.pending = some pending) :
    reader.readSeparator = .error (missingTarget pending) := by
  rw [readSeparator, requireNoPending, isPending]
  rfl

/-- A root that has attributes refuses more of them. -/
theorem MeetsSettings.exists_readConstruct_eq_error
    (settings : reader.KnowsSettings)
    (meets : reader.MeetsSettings)
    (isFurnished : reader.outline.root.attributes ≠ [])
    (noArrow : reader.pending = none) :
    ∃ diagnostic, reader.skipGaps.readConstruct .separator = .error diagnostic ∧
      diagnostic.code = some .rootConfiguredTwice := by
  obtain ⟨attributes, after, read, furnishes⟩ := meets.read
  obtain ⟨first, isFirst⟩ : ∃ first, reader.rootSettings = some first :=
    Option.ne_none_iff_exists'.mp fun unconfigured => isFurnished (settings.mp unconfigured)
  have isFirst : reader.skipGaps.rootSettings = some first := isFirst
  have required : reader.skipGaps.requireNoPending = .ok () := by
    rw [requireNoPending, show reader.skipGaps.pending = none from noArrow]
  rw [readConstruct, readSeparator, required, Attempt.ok_bind]
  dsimp only
  rw [read, Attempt.ok_bind]
  dsimp only
  rw [if_neg (by simpa using furnishes), isFirst]
  exact ⟨_, rfl, rfl⟩

/-- A run that stops before a construct stops in a state that is reached. -/
theorem reaches_of_readConstructs_of_ahead
    {limit : Nat}
    (succeeded : reader.readConstructs limit = .ok later)
    (isAhead : Construct.ahead? later.skipGaps.cursor = some construct) :
    reader.Reaches later := by
  induction limit generalizing reader with
  | zero =>
      cases succeeded
      exact .refl
  | succ limit inductionHypothesis =>
      rw [readConstructs] at succeeded
      split at succeeded
      · rename_i atEnd
        cases succeeded
        obtain ⟨char, isFirst, _⟩ := exists_peek?_of_ahead? isAhead
        obtain ⟨rest, isRest⟩ := List.head?_eq_some_iff.mp isFirst
        have shorter : (char :: rest).length ≤ reader.skipGaps.cursor.rest.length :=
          isRest ▸ Cursor.leadsTo_skipGaps.length_le
        rw [rest_eq_nil_of_ahead? atEnd] at shorter
        exact absurd shorter (Nat.not_succ_le_zero _)
      · rename_i construct isAhead
        split at succeeded
        · rename_i next advanced
          exact .head ⟨construct, isAhead, advanced⟩ (inductionHypothesis succeeded)
        · cases succeeded

/-- A text is refused with the error of the first construct that the reader refuses. -/
theorem read_eq_error
    {source : String}
    {diagnostic : Diagnostic}
    (reaches : (start (Text.normalizeNewlines source.toList)).Reaches reader)
    (isAhead : Construct.ahead? reader.skipGaps.cursor = some construct)
    (refused : reader.skipGaps.readConstruct construct = .error diagnostic) :
    Outline.read source = .error diagnostic := by
  have run := readConstructs_eq_error (isConsistent_start _) reaches isAhead refused
    (Nat.lt_succ_self (Text.normalizeNewlines source.toList).length)
  rw [Outline.read, Outline.ofNormalized, run, Attempt.error_bind]

end Reader

/--
The attributes of each box of an outline are those of the one header for it that carried
some, and those of the root are those of the one separator line that carried some; where
none did there are none.  A header with attributes for a box of its kind that has some is
refused, and one without changes no box that is explicit.  A separator line with attributes
is refused if the root has some, but an arrow before it that waits for a box is refused first.
-/
theorem attributes_are_given_once
    (source : String) :
    (∀ outline, Outline.read source = .ok outline →
      ∃ items,
        Scans outline.root [] (.start (Text.normalizeNewlines source.toList)) items ∧
          (∀ address box, outline.root.at? address = some box →
            items.flatMap (·.givenTo address) = given box.attributes) ∧
          ∀ header address, .box header address ∈ items → address ≠ []) ∧
    ∀ reader : Reader,
      (Reader.start (Text.normalizeNewlines source.toList)).Reaches reader →
        (∀ header existing, reader.Revisits header existing →
          (header.attributes ≠ [] → existing.attributes ≠ [] →
            ∃ diagnostic, Outline.read source = .error diagnostic ∧
              diagnostic.code.map (·.name) = some "E204") ∧
          (header.attributes = [] → existing.implicit = false →
            ∃ next, reader.skipGaps.readConstruct (.box header.kind) = .ok next ∧
              next.outline.root = reader.outline.root)) ∧
        (reader.MeetsSettings → reader.outline.root.attributes ≠ [] →
          ∃ diagnostic, Outline.read source = .error diagnostic ∧
            (reader.pending = none → diagnostic.code.map (·.name) = some "E101") ∧
            ∀ pending, reader.pending = some pending →
              diagnostic = Reader.missingTarget pending ∧
                diagnostic.code.map (·.name) = some "E102") := by
  refine ⟨?outlines, ?states⟩
  case outlines =>
    intro outline succeeded
    obtain ⟨last, isLast, succeeded⟩ := bind_eq_ok_iff.mp succeeded
    obtain ⟨_, _, succeeded⟩ := bind_eq_ok_iff.mp succeeded
    cases succeeded
    obtain ⟨items, scans, gains⟩ :=
      Reader.gains_of_readConstructs (Reader.isConsistent_start _) (Nat.lt_succ_self _) isLast
    refine ⟨items, scans, fun address box found => ?_, gains.inner⟩
    have nothing : Box.root.givenAt address = [] := by
      cases address <;> rfl
    have gained : last.outline.root.givenAt address = Box.root.givenAt address ++ _ :=
      gains.given address
    rw [nothing, List.nil_append, Box.givenAt_of_found found] at gained
    exact gained.symm
  case states =>
    intro reader reaches
    obtain ⟨sound, _, settings⟩ := (Reader.isConsistent_start _).of_reaches reaches
    refine ⟨fun header existing revisits => ⟨?again, ?plain⟩, ?settings⟩
    case again =>
      intro furnishes isFurnished
      exact ⟨_, Reader.read_eq_error reaches revisits.isAhead
        (revisits.readConstruct_eq_error sound furnishes isFurnished), rfl⟩
    case plain =>
      exact revisits.root_eq sound
    case settings =>
      intro meets isFurnished
      cases isPending : reader.pending with
      | none =>
          obtain ⟨diagnostic, refused, isCode⟩ :=
            meets.exists_readConstruct_eq_error settings isFurnished isPending
          refine ⟨diagnostic, Reader.read_eq_error reaches meets.isAhead refused, ?_, by simp⟩
          rw [isCode]
          exact fun _ => rfl
      | some pending =>
          have refused : reader.skipGaps.readConstruct .separator = _ :=
            Reader.readSeparator_eq_error_of_pending isPending
          refine ⟨_, Reader.read_eq_error reaches meets.isAhead refused, by simp, ?_⟩
          rintro other ⟨⟩
          exact ⟨rfl, rfl⟩

section Witnesses

variable (source : String) (limit : Nat)

/-- After so many constructs a separator line with attributes comes, and the root has some. -/
theorem Reader.exists_meetsSettings
    (waits : Bool)
    (computed :
      ((start (Text.normalizeNewlines source.toList)).readConstructs limit).toOption.any
        (fun reader =>
          Construct.ahead? reader.skipGaps.cursor == some .separator &&
          (attributesUntilLineEnd (reader.skipGaps.cursor.skipWhile (· == '-'))).toOption.any
            (!·.1.isEmpty) &&
          !reader.outline.root.attributes.isEmpty && reader.pending.isSome == waits)) :
    ∃ reader : Reader, (start (Text.normalizeNewlines source.toList)).Reaches reader ∧
      reader.MeetsSettings ∧ reader.outline.root.attributes ≠ [] ∧
        reader.pending.isSome = waits := by
  simp only [Option.any_eq_true, Attempt.toOption_eq_some_iff, Bool.and_eq_true, beq_iff_eq,
    Bool.not_eq_true', List.isEmpty_eq_false_iff] at computed
  obtain ⟨reader, stops, ⟨⟨isAhead, ⟨attributes, after⟩, read⟩, isFurnished⟩, isPending⟩ :=
    computed
  exact ⟨reader, reaches_of_readConstructs_of_ahead stops isAhead,
    ⟨isAhead, attributes, after, read⟩, isFurnished, isPending⟩

/-- After so many constructs a header comes that names the first box, a unit with attributes. -/
theorem Reader.exists_revisits
    (name : String)
    (isPlain : Bool)
    (computed :
      ((start (Text.normalizeNewlines source.toList)).readConstructs limit).toOption.any
        (fun reader =>
          Construct.ahead? reader.skipGaps.cursor == some (.box .unit) &&
          (readHeader .unit reader.skipGaps.cursor).toOption.any (fun read =>
            read.1.path.any (fun path => !path.relative && path.segments == [name]) &&
              read.1.attributes.isEmpty == isPlain) &&
          reader.outline.root.names? [0] == some [name] &&
          (reader.outline.root.at? [0]).any (fun box =>
            box.kind == .unit && !box.implicit && !box.attributes.isEmpty))) :
    ∃ (reader : Reader) (header : Header) (existing : Box),
      (start (Text.normalizeNewlines source.toList)).Reaches reader ∧
        reader.Revisits header existing ∧ header.attributes.isEmpty = isPlain ∧
          header.kind = .unit ∧ existing.implicit = false ∧ existing.attributes ≠ [] := by
  simp only [Option.any_eq_true, Attempt.toOption_eq_some_iff, Bool.and_eq_true, beq_iff_eq,
    Bool.not_eq_true', List.isEmpty_eq_false_iff] at computed
  obtain ⟨reader, stops, ⟨⟨isAhead, ⟨header, after⟩, read, ⟨path, hasPath, absolute, along⟩,
    plain⟩, named⟩, existing, found, ⟨isUnit, isExplicit⟩, isFurnished⟩ := computed
  have headerIsUnit : header.kind = .unit := kind_of_readHeader read
  have isBase : path.base reader.container = [] := by
    simp [WrittenPath.base, absolute]
  have refers : header.RefersTo reader.outline.root reader.container [0] := by
    rw [Header.RefersTo, hasPath]
    exact ⟨_, [0], isBase ▸ Box.at?_nil _, along ▸ named, by rw [isBase]; rfl⟩
  have revisits : reader.Revisits header existing :=
    ⟨headerIsUnit ▸ isAhead, ⟨after, headerIsUnit ▸ read⟩, ⟨path, hasPath⟩, ⟨[0], refers, found⟩,
      isUnit.trans headerIsUnit.symm⟩
  exact ⟨reader, header, existing, reaches_of_readConstructs_of_ahead stops isAhead, revisits,
    plain, headerIsUnit, isExplicit, isFurnished⟩

end Witnesses

/--
A unit in a group that is only mentioned gets its attributes from a later header, after the
root and the group got theirs.  A second header with attributes is refused, a header without
any changes nothing, and a second separator line with attributes is refused.
-/
theorem exists_attributes_given_once :
    (∃ outline items attributes,
      Outline.read "[g.a]\n--- x=1\n[g y=2]\n[.a z=3]\n[g]" = .ok outline ∧
        Scans outline.root []
          (.start (Text.normalizeNewlines "[g.a]\n--- x=1\n[g y=2]\n[.a z=3]\n[g]".toList)) items ∧
          items.flatMap (·.givenTo [0, 0]) = [attributes] ∧ attributes.map (·.key) = ["z"]) ∧
    (∃ diagnostic, Outline.read "[a x=1]\n[a]\n[a y=2]" = .error diagnostic ∧
      diagnostic.code.map (·.name) = some "E204") ∧
    (∃ reader next : Reader,
      (Reader.start (Text.normalizeNewlines "[a x=1]\n[a]\n[a y=2]".toList)).Reaches reader ∧
        reader.skipGaps.readConstruct (.box .unit) = .ok next ∧
          next.outline.root = reader.outline.root) ∧
    ∃ diagnostic, Outline.read "--- x=1\n--- y=2" = .error diagnostic ∧
      diagnostic.code.map (·.name) = some "E101" := by
  refine ⟨?read, ?again, ?plain, ?settings⟩
  case read =>
    have computed :
        (Outline.read "[g.a]\n--- x=1\n[g y=2]\n[.a z=3]\n[g]").toOption.map (fun outline =>
          (outline.root.at? [0, 0]).map fun box => box.attributes.map (·.key)) =
            some (some ["z"]) := by
      decide +kernel
    obtain ⟨outline, isRead, isFound⟩ := Option.map_eq_some_iff.mp computed
    obtain ⟨box, found, keys⟩ := Option.map_eq_some_iff.mp isFound
    have isRead := Attempt.toOption_eq_some_iff.mp isRead
    obtain ⟨items, scans, gives, _⟩ := (attributes_are_given_once _).1 outline isRead
    have isGiven : given box.attributes = [box.attributes] := by
      rw [given, if_neg]
      intro isEmpty
      simp [List.isEmpty_iff.mp isEmpty] at keys
    exact ⟨outline, items, box.attributes, isRead, scans, (gives _ box found).trans isGiven, keys⟩
  case again =>
    obtain ⟨reader, header, existing, reaches, revisits, isFurnished, _, _, wasFurnished⟩ :=
      Reader.exists_revisits "[a x=1]\n[a]\n[a y=2]" 4 "a" false (by decide +kernel)
    exact (((attributes_are_given_once _).2 reader reaches).1 header existing revisits).1
      (by simpa using isFurnished) wasFurnished
  case plain =>
    obtain ⟨reader, header, existing, reaches, revisits, isPlain, isUnit, isExplicit, _⟩ :=
      Reader.exists_revisits "[a x=1]\n[a]\n[a y=2]" 2 "a" true (by decide +kernel)
    obtain ⟨next, succeeded, unchanged⟩ :=
      (((attributes_are_given_once _).2 reader reaches).1 header existing revisits).2
        (by simpa using isPlain) isExplicit
    exact ⟨reader, next, reaches, isUnit ▸ succeeded, unchanged⟩
  case settings =>
    obtain ⟨reader, reaches, meets, isFurnished, noArrow⟩ :=
      Reader.exists_meetsSettings "--- x=1\n--- y=2" 2 false (by decide +kernel)
    obtain ⟨diagnostic, refused, isTwice, _⟩ :=
      ((attributes_are_given_once _).2 reader reaches).2 meets isFurnished
    exact ⟨diagnostic, refused, isTwice (by simpa using noArrow)⟩

/-- An arrow that waits for a box is refused before the second line that configures the root. -/
theorem root_configured_twice_behind_arrow :
    ∃ reader : Reader,
      (Reader.start (Text.normalizeNewlines "--- gap=1\n(a) ->\n--- gap=2".toList)).Reaches
          reader ∧
        reader.MeetsSettings ∧ reader.outline.root.attributes ≠ [] ∧
          ∃ diagnostic, Outline.read "--- gap=1\n(a) ->\n--- gap=2" = .error diagnostic ∧
            diagnostic.code.map (·.name) = some "E102" := by
  obtain ⟨reader, reaches, meets, isFurnished, isPending⟩ :=
    Reader.exists_meetsSettings "--- gap=1\n(a) ->\n--- gap=2" 5 true (by decide +kernel)
  obtain ⟨pending, isPending⟩ := Option.isSome_iff_exists.mp isPending
  exact ⟨reader, reaches, meets, isFurnished, _, Reader.read_eq_error reaches meets.isAhead
    (Reader.readSeparator_eq_error_of_pending isPending), rfl⟩

end Outline

end BoxDiagram
