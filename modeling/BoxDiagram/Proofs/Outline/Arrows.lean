import BoxDiagram.Proofs.Outline.Constructs

namespace BoxDiagram

open Attempt (bind_eq_ok_iff)

/-!
# Arrows between boxes

The reader remembers a box up to the next construct, and an arrow up to the box after it.
What it remembers are the last of the items that it has read, and the links it has drawn
are those of all items before them.  So each arrow of a text that is read stands right
between two boxes, and the links are those of the arrows and those in braces, in order.
-/

namespace Outline

/-- The link that an item stands for between the items right before and right after it. -/
def Item.link? (before after : Option Item) : Item → Option Connection
  | .arrow written =>
      match before, after with
      | some (.box source sourceAddress), some (.box target targetAddress) =>
          some
            { source := ⟨.address sourceAddress, source.span, source.position⟩
              target := ⟨.address targetAddress, target.span, target.position⟩
              arrow := written
              attributes := []
              span := source.span.union target.span
              position := source.position }
      | _, _ => none
  | .link written => some written
  | _ => none

/-- The links for which items stand that come after a given one. -/
def Item.links (before : Option Item) : List Item → List Connection
  | [] => []
  | item :: later => (item.link? before later.head?).toList ++ links (some item) later

/-- The item is an arrow or a link in braces. -/
def Item.isLink : Item → Bool
  | .arrow _ => true
  | .link _ => true
  | _ => false

/-- Each arrow stands right between two boxes. -/
def ArrowsJoinBoxes (items : List Item) : Prop :=
  ∀ earlier arrow later, items = earlier ++ .arrow arrow :: later →
    (∃ source address, earlier.getLast? = some (.box source address)) ∧
      ∃ target address, later.head? = some (.box target address)

/--
After the items of a context some more items stand for these links, and all that matters
for the links further on is the next context.
-/
structure Continues (context items next : List Item) (connections : List Connection) : Prop where
  links_eq :
    ∀ later, Item.links none (context ++ items ++ later) =
      connections ++ Item.links none (next ++ later)
  joins : ∀ later, ArrowsJoinBoxes (next ++ later) → ArrowsJoinBoxes (context ++ items ++ later)

namespace ArrowsJoinBoxes

/-- Where nothing was read, no arrow lacks a box. -/
theorem nil :
    ArrowsJoinBoxes [] := by
  intro earlier arrow later splits
  simp at splits

/-- An item that is no arrow can stand before any others. -/
theorem cons
    {item : Item}
    {items : List Item}
    (joins : ArrowsJoinBoxes items)
    (noArrow : ∀ arrow, item ≠ .arrow arrow) :
    ArrowsJoinBoxes (item :: items) := by
  intro earlier arrow later splits
  cases earlier with
  | nil =>
      exact absurd (List.cons.inj splits).1 (noArrow arrow)
  | cons first rest =>
      obtain ⟨⟨source, address, isLast⟩, isNext⟩ := joins rest arrow later (List.cons.inj splits).2
      exact ⟨⟨source, address, by simp [List.getLast?_cons, isLast]⟩, isNext⟩

/-- An arrow may stand between two boxes. -/
theorem cons_box_arrow
    {source target : Header}
    {sourceAddress targetAddress : Address}
    {arrow : Arrow}
    {items : List Item}
    (joins : ArrowsJoinBoxes (.box target targetAddress :: items)) :
    ArrowsJoinBoxes
      (.box source sourceAddress :: .arrow arrow :: .box target targetAddress :: items) := by
  intro earlier other later splits
  match earlier with
  | [] =>
      cases splits
  | [first] =>
      cases splits
      exact ⟨⟨source, sourceAddress, rfl⟩, target, targetAddress, rfl⟩
  | first :: second :: further =>
      obtain ⟨_, splits⟩ := List.cons.inj splits
      obtain ⟨_, splits⟩ := List.cons.inj splits
      obtain ⟨⟨before, address, isLast⟩, isNext⟩ := joins further other later splits
      exact ⟨⟨before, address, by simp [List.getLast?_cons, isLast]⟩, isNext⟩

end ArrowsJoinBoxes

namespace Item

/-- A box alone gives no link. -/
@[simp] theorem link?_box
    (header : Header)
    (address : Address)
    (before after : Option Item) :
    (Item.box header address).link? before after = none :=
  rfl

/-- Only a box matters to the items after it. -/
theorem links_eq_of_not_box
    {item : Item}
    (noBox : ∀ header address, item ≠ .box header address)
    (later : List Item) :
    links (some item) later = links none later := by
  cases later with
  | nil =>
      rfl
  | cons next further =>
      have sameLink : next.link? (some item) further.head? = next.link? none further.head? := by
        cases item with
        | box header address => exact absurd rfl (noBox header address)
        | _ => cases next <;> rfl
      rw [links, links, sameLink]

/-- Where arrows join boxes, each arrow and each link in braces stands for one link. -/
theorem length_links
    {items : List Item}
    (earlier : List Item)
    (joins : ArrowsJoinBoxes (earlier ++ items)) :
    (links earlier.getLast? items).length = items.countP Item.isLink := by
  induction items generalizing earlier with
  | nil =>
      rfl
  | cons item later inductionHypothesis =>
      have oneLink :
          (item.link? earlier.getLast? later.head?).toList.length =
            if item.isLink then 1 else 0 := by
        cases item with
        | arrow written =>
            obtain ⟨⟨source, start, isLast⟩, target, finish, isNext⟩ :=
              joins earlier written later rfl
            rw [isLast, isNext]
            rfl
        | _ => rfl
      have further := inductionHypothesis (earlier ++ [item]) (by simpa using joins)
      rw [List.getLast?_concat] at further
      rw [links, List.length_append, oneLink, further, List.countP_cons, Nat.add_comm]

end Item

namespace Continues

/-- Reading nothing continues what was read before. -/
theorem refl
    (context : List Item) :
    Continues context [] context [] where
  links_eq later := by simp
  joins later joins := by simpa using joins

end Continues

/-- What the reader remembers of the items that it has read last. -/
inductive Reader.Remembers (reader : Reader) : List Item → Prop where
  | nothing
      (noBox : reader.lastBox = none)
      (noArrow : reader.pending = none) :
      Remembers reader []
  | box
      {header : Header}
      {address : Address}
      (isLast : reader.lastBox = some ⟨address, header.span, header.position⟩)
      (noArrow : reader.pending = none)
      (late : reader.preamble = false) :
      Remembers reader [.box header address]
  | arrow
      {header : Header}
      {address : Address}
      {written : Arrow}
      {span : Span}
      {position : Position}
      (noBox : reader.lastBox = none)
      (isPending :
        reader.pending = some ⟨⟨address, header.span, header.position⟩, written, span, position⟩)
      (late : reader.preamble = false) :
      Remembers reader [.box header address, .arrow written]

/--
One construct adds links to those of the reader, and lets its tree grow.  The items that it
yields, after those that the reader remembered, stand for these links.
-/
structure Reader.Turns
    (reader next : Reader)
    (construct : Construct)
    (context items remembered : List Item)
    (connections : List Connection) : Prop where
  yields :
    construct.Yields next.outline.root reader.container reader.cursor items next.container
      next.cursor
  growsInto : reader.outline.root.GrowsInto next.outline.root
  remembers : next.Remembers remembered
  connections_eq : next.outline.connections = reader.outline.connections ++ connections
  continues : Continues context items remembered connections

namespace Reader

variable {text : List Char} {reader next : Reader} {context : List Item}

/-- Before the first construct there is no box and no arrow to remember. -/
theorem remembers_start
    (text : List Char) :
    (start text).Remembers [] :=
  .nothing rfl rfl

/-- A reader never remembers a box and an arrow at once. -/
theorem Remembers.lastBox_or_pending
    (remembers : reader.Remembers context) :
    reader.lastBox = none ∨ reader.pending = none := by
  cases remembers with
  | nothing noBox _ => exact .inl noBox
  | box _ noArrow _ => exact .inr noArrow
  | arrow noBox _ _ => exact .inl noBox

/-- After an item that is neither a box nor an arrow nothing need be remembered. -/
theorem Remembers.continues_other
    {item : Item}
    (remembers : reader.Remembers context)
    (noArrow : reader.pending = none)
    (isOther : ∀ header address, item ≠ .box header address)
    (notArrow : ∀ written, item ≠ .arrow written) :
    Continues context [item] [] (item.link? none none).toList := by
  have sameLink (before after : Option Item) : item.link? before after = item.link? none none := by
    cases item with
    | arrow written => exact absurd rfl (notArrow written)
    | _ => rfl
  cases remembers with
  | nothing =>
      refine ⟨fun later => ?_, fun later joins => joins.cons notArrow⟩
      simp [Item.links, Item.links_eq_of_not_box isOther, sameLink]
  | box =>
      refine ⟨fun later => ?_, fun later joins => (joins.cons notArrow).cons (by simp)⟩
      simp [Item.links, Item.links_eq_of_not_box isOther, sameLink]
  | arrow _ isPending _ =>
      cases isPending.symm.trans noArrow

/-- A box ends the link of an arrow before it, if there is one, and is remembered itself. -/
theorem Remembers.continues_box
    (remembers : reader.Remembers context)
    (header : Header)
    (address : Address) :
    Continues context [.box header address] [.box header address]
      (reader.pending.toList.map (·.connect ⟨address, header.span, header.position⟩)) := by
  cases remembers with
  | nothing _ noArrow =>
      rw [noArrow]
      exact ⟨fun later => rfl, fun later joins => joins⟩
  | box _ noArrow _ =>
      rw [noArrow]
      refine ⟨fun later => ?_, fun later joins => joins.cons (by simp)⟩
      simp [Item.links]
  | arrow _ isPending _ =>
      rw [isPending]
      refine ⟨fun later => ?_, fun later joins => joins.cons_box_arrow⟩
      simp [Item.links, Item.link?, Pending.connect]

/-- A separator ends the row: no box is remembered after it. -/
theorem turns_of_readSeparator
    (remembers : reader.Remembers context)
    (succeeded : reader.readSeparator = .ok next) :
    ∃ items remembered connections,
      reader.Turns next .separator context items remembered connections := by
  obtain ⟨noArrow, attributes, after, read, isNext⟩ := cases_of_readSeparator succeeded
  have continues : Continues context [.separator attributes] [] [] :=
    remembers.continues_other noArrow (by simp) (by simp)
  rcases isNext with ⟨_, rfl⟩ | ⟨_, _, rfl⟩
  · exact ⟨_, _, _, .separator read, .refl _, .nothing rfl noArrow, (List.append_nil _).symm,
      continues⟩
  · exact ⟨_, _, _, .separator read, reader.growsInto_configuredRoot attributes after,
      .nothing rfl noArrow, (List.append_nil _).symm, continues⟩

/-- A box ends the arrow before it, if one waits, and is remembered. -/
theorem turns_of_readBox
    {kind : Kind}
    (sound : reader.IsSound)
    (written : reader.IsWrittenIn text)
    (remembers : reader.Remembers context)
    (isAhead : Construct.ahead? reader.cursor = some (.box kind))
    (succeeded : reader.readBox kind = .ok next) :
    ∃ items remembered connections,
      reader.Turns next (.box kind) context items remembered connections := by
  obtain ⟨header, root, address, after, declares, rfl⟩ :=
    exists_of_readBox sound written isAhead succeeded
  exact ⟨_, _, _, .box declares.read declares.refers, declares.growsInto, .box rfl rfl rfl, rfl,
    remembers.continues_box header address⟩

/-- Links in braces leave what is remembered. -/
theorem turns_of_readConnection
    (remembers : reader.Remembers context)
    (succeeded : reader.readConnection = .ok next) :
    ∃ items remembered connections,
      reader.Turns next .connection context items remembered connections := by
  rw [readConnection_eq] at succeeded
  obtain ⟨_, isRequired, succeeded⟩ := bind_eq_ok_iff.mp succeeded
  have noArrow := pending_eq_none_of_requireNoPending isRequired
  obtain ⟨⟨connection, after⟩, read, succeeded⟩ := bind_eq_ok_iff.mp succeeded
  cases succeeded
  exact ⟨_, _, _, .connection read, .refl _, .nothing rfl noArrow, rfl,
    remembers.continues_other noArrow (by simp) (by simp)⟩

/-- An arrow takes the box that is remembered, and waits. -/
theorem turns_of_readPending
    (remembers : reader.Remembers context)
    (succeeded : reader.readPending = .ok next) :
    ∃ items remembered connections,
      reader.Turns next .arrow context items remembered connections := by
  rw [readPending] at succeeded
  cases remembers with
  | nothing noBox _ =>
      rw [noBox] at succeeded
      cases succeeded
  | arrow noBox _ _ =>
      rw [noBox] at succeeded
      cases succeeded
  | box isLast _ late =>
      rw [isLast] at succeeded
      obtain ⟨⟨arrow, after⟩, read, succeeded⟩ := bind_eq_ok_iff.mp succeeded
      cases succeeded
      exact ⟨_, _, _, .arrow read, .refl _, .arrow rfl rfl late, (List.append_nil _).symm,
        fun _ => rfl, fun _ joins => joins⟩

/-- An attribute of the text leaves what is remembered. -/
theorem turns_of_readDocumentAttribute
    (remembers : reader.Remembers context)
    (succeeded : reader.readDocumentAttribute = .ok next) :
    ∃ items remembered connections,
      reader.Turns next .attribute context items remembered connections := by
  rw [readDocumentAttribute] at succeeded
  split at succeeded
  · rename_i isEarly
    obtain ⟨⟨first, after⟩, read, succeeded⟩ := bind_eq_ok_iff.mp succeeded
    cases succeeded
    cases remembers with
    | nothing noBox noArrow =>
        exact ⟨_, _, _, .attribute read, .refl _, .nothing noBox noArrow,
          (List.append_nil _).symm,
          (Remembers.nothing noBox noArrow).continues_other noArrow (by simp) (by simp)⟩
    | box _ _ late =>
        cases late.symm.trans isEarly
    | arrow _ _ late =>
        cases late.symm.trans isEarly
  · cases succeeded

/-- What the reader remembers before a move of its cursor it remembers after it. -/
theorem Remembers.move
    (remembers : reader.Remembers context)
    (cursor : Cursor) :
    { reader with cursor := cursor }.Remembers context := by
  cases remembers with
  | nothing noBox noArrow => exact .nothing noBox noArrow
  | box isLast noArrow late => exact .box isLast noArrow late
  | arrow noBox isPending late => exact .arrow noBox isPending late

/-- Each construct turns what the reader remembers into links and into what it remembers next. -/
theorem turns_of_readConstruct
    {construct : Construct}
    (sound : reader.IsSound)
    (written : reader.IsWrittenIn text)
    (remembers : reader.Remembers context)
    (isAhead : Construct.ahead? reader.cursor = some construct)
    (succeeded : reader.readConstruct construct = .ok next) :
    ∃ items remembered connections,
      reader.Turns next construct context items remembered connections := by
  cases construct with
  | lineEnd =>
      cases succeeded
      exact ⟨_, _, _, .lineEnd, .refl _, remembers.move _, (List.append_nil _).symm, .refl context⟩
  | comment =>
      cases succeeded
      exact ⟨_, _, _, .comment, .refl _, remembers.move _, (List.append_nil _).symm, .refl context⟩
  | separator =>
      exact turns_of_readSeparator remembers succeeded
  | box kind =>
      exact turns_of_readBox sound written remembers isAhead succeeded
  | connection =>
      exact turns_of_readConnection remembers succeeded
  | arrow =>
      exact turns_of_readPending remembers succeeded
  | «attribute» =>
      exact turns_of_readDocumentAttribute remembers succeeded
  | unknown =>
      cases succeeded

/-- Each construct turns what is remembered before it to what is remembered after it. -/
theorem turns_of_readNext
    {construct : Construct}
    (sound : reader.IsSound)
    (written : reader.IsWrittenIn text)
    (remembers : reader.Remembers context)
    (isAhead : Construct.ahead? reader.skipGaps.cursor = some construct)
    (succeeded : reader.skipGaps.readConstruct construct = .ok next) :
    next.IsSound ∧ next.IsWrittenIn text ∧
      ∃ items remembered connections,
        reader.skipGaps.Turns next construct context items remembered connections := by
  have moved : reader.skipGaps.IsWrittenIn text := written.move Cursor.leadsTo_skipGaps
  obtain ⟨parent, found, _⟩ := sound.container
  exact ⟨(isSound_of_readConstruct sound.skipGaps succeeded).1,
    (readConstruct_ends moved found isAhead).of_ok succeeded,
    turns_of_readConstruct sound.skipGaps moved (remembers.move _) isAhead succeeded⟩

/-- In every state that is reached the reader remembers some items. -/
theorem exists_remembers_of_reaches
    (reaches : (start text).Reaches reader) :
    reader.IsSound ∧ reader.IsWrittenIn text ∧ ∃ context, reader.Remembers context := by
  induction reaches with
  | refl =>
      exact ⟨isSound_start text, isWrittenIn_start text, [], remembers_start text⟩
  | tail _ advances inductionHypothesis =>
      obtain ⟨sound, written, context, remembers⟩ := inductionHypothesis
      obtain ⟨construct, isAhead, succeeded⟩ := advances
      obtain ⟨nextSound, nextWritten, _, remembered, _, turns⟩ :=
        turns_of_readNext sound written remembers isAhead succeeded
      exact ⟨nextSound, nextWritten, remembered, turns.remembers⟩

/-- What is remembered when no arrow is left over stands for no links. -/
theorem Remembers.joins
    (remembers : reader.Remembers context)
    (noArrow : reader.pending = none) :
    ArrowsJoinBoxes context ∧ Item.links none context = [] := by
  cases remembers with
  | nothing =>
      exact ⟨.nil, rfl⟩
  | box =>
      exact ⟨ArrowsJoinBoxes.nil.cons (by simp), rfl⟩
  | arrow _ isPending _ =>
      cases isPending.symm.trans noArrow

/--
From any state a run to the end of the text reads all items that stand there.  Each arrow
among them and those that are remembered stands between two boxes, and the links that are
added are those of all these items.
-/
theorem scans_of_readConstructs
    {limit : Nat}
    {last : Reader}
    (sound : reader.IsSound)
    (written : reader.IsWrittenIn text)
    (remembers : reader.Remembers context)
    (enough : reader.cursor.rest.length < limit)
    (succeeded : reader.readConstructs limit = .ok last)
    (noArrow : last.pending = none) :
    reader.outline.root.GrowsInto last.outline.root ∧
      ∃ items, Scans last.outline.root reader.container reader.cursor items ∧
        ArrowsJoinBoxes (context ++ items) ∧
          last.outline.connections =
            reader.outline.connections ++ Item.links none (context ++ items) := by
  induction limit generalizing reader context with
  | zero =>
      exact absurd enough (Nat.not_lt_zero _)
  | succ limit inductionHypothesis =>
      rw [readConstructs] at succeeded
      split at succeeded
      · rename_i atEnd
        cases succeeded
        obtain ⟨joins, noLinks⟩ := remembers.joins noArrow
        refine ⟨.refl _, [], .finish (rest_eq_nil_of_ahead? atEnd), ?_⟩
        rw [List.append_nil, noLinks]
        exact ⟨joins, (List.append_nil _).symm⟩
      · rename_i construct isAhead
        split at succeeded
        · rename_i next advanced
          obtain ⟨nextSound, nextWritten, items, remembered, connections, turns⟩ :=
            turns_of_readNext sound written remembers isAhead advanced
          have shorter : next.cursor.rest.length < reader.skipGaps.cursor.rest.length :=
            turns.yields.length_lt isAhead (written.cursor.of_leadsTo Cursor.leadsTo_skipGaps)
          have skipped : reader.skipGaps.cursor.rest.length ≤ reader.cursor.rest.length :=
            Cursor.leadsTo_skipGaps.length_le
          obtain ⟨growsOn, others, scans, joins, connectionsEq⟩ :=
            inductionHypothesis nextSound nextWritten turns.remembers (by omega) succeeded
          refine ⟨turns.growsInto.trans growsOn, items ++ others,
            .next isAhead (turns.yields.of_growsInto growsOn) scans, ?_, ?_⟩
          · rw [← List.append_assoc]
            exact turns.continues.joins others joins
          · rw [connectionsEq, turns.connections_eq, List.append_assoc, ← List.append_assoc context,
              turns.continues.links_eq]
            rfl
        · cases succeeded

end Reader

/--
In no state of the reader are a box and an arrow remembered at once.  Of a text that is
read, each arrow stands right between two boxes, and the links of the outline are, in order,
one for each arrow, from the box before it to the box after it, and the links in braces.
-/
theorem arrows_join_of_read
    (source : String) :
    (∀ reader : Reader,
      (Reader.start (Text.normalizeNewlines source.toList)).Reaches reader →
        reader.lastBox = none ∨ reader.pending = none) ∧
    ∀ outline, Outline.read source = .ok outline →
      ∃ items,
        Scans outline.root [] (.start (Text.normalizeNewlines source.toList)) items ∧
          ArrowsJoinBoxes items ∧ outline.connections = Item.links none items ∧
            outline.connections.length = items.countP Item.isLink := by
  refine ⟨?states, ?outlines⟩
  case states =>
    intro reader reaches
    obtain ⟨_, _, context, remembers⟩ := Reader.exists_remembers_of_reaches reaches
    exact remembers.lastBox_or_pending
  case outlines =>
    intro outline succeeded
    obtain ⟨last, isLast, succeeded⟩ := bind_eq_ok_iff.mp succeeded
    obtain ⟨_, isRequired, succeeded⟩ := bind_eq_ok_iff.mp succeeded
    cases succeeded
    obtain ⟨_, items, scans, joins, connectionsEq⟩ :=
      Reader.scans_of_readConstructs (Reader.isSound_start _) (Reader.isWrittenIn_start _)
        (Reader.remembers_start _) (Nat.lt_succ_self _) isLast
        (Reader.pending_eq_none_of_requireNoPending isRequired)
    have connectionsEq : last.outline.connections = Item.links none items := connectionsEq
    exact ⟨items, scans, joins, connectionsEq, connectionsEq ▸ Item.length_links [] joins⟩

/-- Two arrows in a row share a box, and a link in braces comes between them and a third one. -/
theorem exists_arrows_join_of_read :
    ∃ outline items,
      Outline.read "[a] -> () <-1\n[.b]\n{a => b}\n---\n(.c) -- [a]" = .ok outline ∧
        Scans outline.root []
          (.start (Text.normalizeNewlines
            "[a] -> () <-1\n[.b]\n{a => b}\n---\n(.c) -- [a]".toList)) items ∧
          ArrowsJoinBoxes items ∧ outline.connections = Item.links none items ∧
            outline.connections.map (fun written =>
              (written.source.selector, written.arrow.kind, written.target.selector)) =
                [(.address [0], "-", .address [0, 0]), (.address [0, 0], "-", .address [0, 1]),
                  (.path [] ["a"], "=", .path [] ["b"]), (.address [1], "--", .address [0])] := by
  have read :
      (Outline.read "[a] -> () <-1\n[.b]\n{a => b}\n---\n(.c) -- [a]").toOption.map (fun outline =>
          outline.connections.map fun written =>
            (written.source.selector, written.arrow.kind, written.target.selector)) =
        some [(.address [0], "-", .address [0, 0]), (.address [0, 0], "-", .address [0, 1]),
          (.path [] ["a"], "=", .path [] ["b"]), (.address [1], "--", .address [0])] := by
    decide +kernel
  obtain ⟨outline, isRead, joined⟩ := Option.map_eq_some_iff.mp read
  have isRead := Attempt.toOption_eq_some_iff.mp isRead
  obtain ⟨items, scans, joins, connectionsEq, _⟩ := (arrows_join_of_read _).2 outline isRead
  exact ⟨outline, items, isRead, scans, joins, connectionsEq, joined⟩

end Outline

end BoxDiagram
