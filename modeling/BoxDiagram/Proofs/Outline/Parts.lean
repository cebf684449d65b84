import BoxDiagram.Outline.Reader
import BoxDiagram.Proofs.Diagnostic.Placed
import BoxDiagram.Proofs.Outline.Cursor
import Mathlib.Data.List.TakeWhile

namespace BoxDiagram

open Attempt (Ends bind_eq_ok_iff)
open Text (Marks Locates)

/-!
# Reading the parts of a construct

Each reader of a part moves from one place of the text to a later one.  What it gives
back is what is written between the two, and wherever it stops it says so about a place
of the text.
-/

namespace Cursor

variable {start next : Cursor} {text : List Char} {code : DiagnosticCode}

/-- An error at a place, about the characters from there on, is about a place of the text. -/
theorem isAbout_fail
    (stands : start.StandsIn text)
    (leads : start.LeadsTo next)
    (code : DiagnosticCode)
    (message remark : String) :
    (start.fail code message (start.spanTo next) remark).IsAbout (Locates text) :=
  Diagnostic.isAbout_mark_locate _ _ _ (locates_spanTo stands leads)

/-- A failure between two places of the text is placed in it. -/
theorem isPlacedIn_fail
    (stands : start.StandsIn text)
    (leads : start.LeadsTo next)
    (code_ne : code ≠ .conflictingKind)
    (message remark : String) :
    (start.fail code message (start.spanTo next) remark).IsPlacedIn text :=
  (isAbout_fail stands leads code message remark).isPlacedIn fun same =>
    code_ne (Option.some.inj same)

theorem isPlacedIn_fail_advise
    (stands : start.StandsIn text)
    (leads : start.LeadsTo next)
    (code_ne : code ≠ .conflictingKind)
    (message remark help : String) :
    ((start.fail code message (start.spanTo next) remark).advise help).IsPlacedIn text :=
  ((isAbout_fail stands leads code message remark).advise help).isPlacedIn fun same =>
    code_ne (Option.some.inj same)

/-- What is unexpected is placed where it starts. -/
theorem isPlacedIn_unexpected
    (stands : start.StandsIn text)
    (context : String) :
    (start.unexpected context).IsPlacedIn text :=
  isPlacedIn_fail stands (leadsTo_advance 1) (by decide) _ _

end Cursor

namespace Outline

open Cursor

/-- A value is written as it is, if it is a run of plain characters, or quoted and escaped. -/
inductive IsWrittenValue (value : List Char) : List Char → Prop where
  | plain
      (nonempty : value ≠ [])
      (areValueChars : ∀ char ∈ value, isValueChar char = true) :
      IsWrittenValue value value
  | quoted : IsWrittenValue value ('"' :: AccessName.escape value ++ ['"'])

/-- An attribute is written as its key, or as its key, an equals sign and its value. -/
inductive Attribute.IsWrittenAs (written : Attribute) : List Char → Prop where
  | key (noValue : written.value = none) : IsWrittenAs written written.key.toList
  | keyValue
      (value : String)
      (under : List Char)
      (isValue : written.value = some value)
      (writesValue : IsWrittenValue value.toList under) :
      IsWrittenAs written (written.key.toList ++ '=' :: under)

/-- The attribute is what a text says under its span, and its position is where that starts. -/
def Attribute.IsWrittenIn (text : List Char) (written : Attribute) : Prop :=
  ∃ under, Marks text written.span written.position under ∧ written.IsWrittenAs under

/-- The places of a written attribute are places of the text. -/
theorem Attribute.IsWrittenIn.isKnown
    {text : List Char}
    {written : Attribute}
    (isWritten : written.IsWrittenIn text) :
    written.IsKnown (Locates text) := by
  obtain ⟨under, marks, _⟩ := isWritten
  exact ⟨under, marks⟩

section Attributes

variable {text : List Char} {start header opening cursor : Cursor}

/-- A string that does not end is placed at its quote. -/
theorem isPlacedIn_unterminatedString
    (stands : opening.StandsIn text)
    (leads : opening.LeadsTo cursor) :
    (unterminatedString opening cursor).IsPlacedIn text :=
  isPlacedIn_fail_advise stands leads (by decide) _ _ _

/-- A header that does not end is placed at its bracket. -/
theorem isPlacedIn_unterminatedHeader
    {closer : Char}
    (stands : header.StandsIn text)
    (leads : header.LeadsTo cursor) :
    (unterminatedHeader header cursor closer).IsPlacedIn text :=
  isPlacedIn_fail_advise stands leads (by decide) _ _ _

/-- A backslash and the character after it are read as that character, if it is special. -/
theorem passes_escape
    {char : Char}
    {rest value : List Char}
    {after : Cursor}
    (special : char = '"' ∨ char = '\\')
    (isRest : cursor.rest = '\\' :: char :: rest)
    (passes : (cursor.advance 2).Passes (AccessName.escape value ++ ['"']) after) :
    cursor.Passes (AccessName.escape (char :: value) ++ ['"']) after := by
  have passed : cursor.Passes ['\\', char] (cursor.advance 2) :=
    passes_advance_length ⟨rest, isRest.symm⟩
  simpa [AccessName.escape, special] using passed.trans passes

/-- What is read inside quotes is written there escaped, up to the closing quote. -/
theorem quotedText_ends
    (limit : Nat)
    (stands : opening.StandsIn text)
    (leads : opening.LeadsTo cursor) :
    Ends (fun (value, after) => cursor.Passes (AccessName.escape value ++ ['"']) after)
      (Diagnostic.IsPlacedIn text) (quotedText opening limit cursor) := by
  induction limit generalizing cursor with
  | zero =>
      exact .error (isPlacedIn_unterminatedString stands leads)
  | succ limit inductionHypothesis =>
      have inside (count : Nat) := inductionHypothesis (leads.trans (leadsTo_advance count))
      rw [quotedText]
      split
      · exact .error (isPlacedIn_unterminatedString stands leads)
      · rename_i rest isRest
        exact .ok (passes_advance_length ⟨rest, isRest.symm⟩)
      · rename_i following isRest
        split
        · exact .map (inside 2) fun _ passes => passes_escape (.inl rfl) isRest passes
        · exact .map (inside 2) fun _ passes => passes_escape (.inr rfl) isRest passes
        · exact .error (isPlacedIn_fail_advise (stands.of_leadsTo leads) (leadsTo_advance 2)
            (by decide) _ _ _)
      · rename_i char rest notQuote notBackslash isRest
        refine .map (inside 1) fun ⟨value, after⟩ passes => ?_
        have passed : cursor.Passes [char] (cursor.advance 1) :=
          passes_advance_length ⟨rest, isRest.symm⟩
        have plain : ¬ (char = '"' ∨ char = '\\') := by
          rintro (rfl | rfl)
          · exact notQuote rfl
          · exact notBackslash rfl
        simpa [AccessName.escape, plain] using passed.trans passes

/-- The value of an attribute is what is written between the equals sign and the place after. -/
theorem attributeValue_ends
    (key : String)
    (stands : start.StandsIn text)
    (leads : start.LeadsTo cursor) :
    Ends (fun (value, after) => ∃ under, IsWrittenValue value.toList under ∧
        cursor.Passes under after)
      (Diagnostic.IsPlacedIn text) (attributeValue start key cursor) := by
  have missing (message remark : String) :
      (start.fail .unexpectedConstruct message (start.spanTo cursor) remark).IsPlacedIn text :=
    isPlacedIn_fail stands leads (by decide) message remark
  rw [attributeValue]
  split
  · rename_i isQuote
    refine .map (quotedText_ends _ (stands.of_leadsTo leads) (leadsTo_advance 1)) ?_
    rintro ⟨value, after⟩ passes
    have passed := (passes_advance_one isQuote).trans passes
    refine ⟨'"' :: AccessName.escape value ++ ['"'], ?_, passed⟩
    rw [String.toList_ofList]
    exact .quoted
  · rename_i char _ isFirst
    split
    · rename_i isValueChar
      refine .ok ⟨cursor.rest.takeWhile Outline.isValueChar, ?_, passes_takeWhile _⟩
      rw [String.toList_ofList]
      obtain ⟨rest, isRest⟩ := List.head?_eq_some_iff.mp isFirst
      refine .plain ?_ fun one member => List.mem_takeWhile_imp member
      simp [isRest, isValueChar]
    · exact .error (missing _ _)
  · exact .error (missing _ _)

/-- An attribute that is read is written at the place, up to the place after it. -/
theorem readAttribute_ends
    (stands : start.StandsIn text) :
    Ends (fun (written, after) => written.IsWrittenIn text ∧ start.LeadsTo after)
      (Diagnostic.IsPlacedIn text) (readAttribute start) := by
  have overKey := start.passes_takeWhile Text.isWordChar
  rw [readAttribute]
  dsimp only
  generalize start.takeWhile Text.isWordChar = taken at overKey ⊢
  obtain ⟨key, afterKey⟩ := taken
  dsimp only at overKey ⊢
  split
  · rename_i isEquals
    have before := overKey.trans (passes_advance_one isEquals)
    refine .bind (attributeValue_ends _ stands before.leadsTo) ?_
    rintro ⟨value, after⟩ ⟨under, writesValue, passes⟩
    have passed : start.Passes ((String.ofList key).toList ++ '=' :: under) after := by
      simpa using before.trans passes
    exact .ok
      ⟨⟨_, marks_spanTo stands passed, .keyValue value under rfl writesValue⟩, passed.leadsTo⟩
  · have passed : start.Passes (String.ofList key).toList afterKey := by
      simpa using overKey
    exact .ok ⟨⟨_, marks_spanTo stands passed, .key rfl⟩, passed.leadsTo⟩

/-- The attributes of a header are written in the text, or the failure is placed in it. -/
theorem attributesWithin_ends
    {closer : Char}
    (limit : Nat)
    (stands : header.StandsIn text)
    (leads : header.LeadsTo cursor) :
    Ends (fun (attributes, finish) =>
        (∀ one ∈ attributes, one.IsWrittenIn text) ∧ cursor.LeadsTo finish)
      (Diagnostic.IsPlacedIn text) (attributesWithin header closer limit cursor) := by
  induction limit generalizing cursor with
  | zero =>
      exact .error (isPlacedIn_unterminatedHeader stands leads)
  | succ limit inductionHypothesis =>
      have skips : cursor.LeadsTo cursor.skipTrivia := leadsTo_skipTrivia
      have standsNext := stands.of_leadsTo (leads.trans skips)
      rw [attributesWithin]
      dsimp only
      split
      · exact .error (isPlacedIn_unterminatedHeader stands (leads.trans skips))
      · split
        · exact .ok ⟨by simp, skips⟩
        · split
          · have first := readAttribute_ends standsNext
            split
            · rename_i failed
              exact .error (first.failsOnly.of_eq failed)
            · rename_i succeeded
              obtain ⟨isWritten, passes⟩ := first.of_ok succeeded
              refine .map (inductionHypothesis (leads.trans (skips.trans passes))) ?_
              rintro ⟨others, finish⟩ ⟨areWritten, leadsOn⟩
              exact ⟨by simpa using ⟨isWritten, areWritten⟩, skips.trans (passes.trans leadsOn)⟩
          · exact .error (isPlacedIn_unexpected standsNext _)

/-- The attributes of a line are written in the text, or the failure is placed in it. -/
theorem attributesOnLine_ends
    (limit : Nat)
    (stands : cursor.StandsIn text) :
    Ends (fun (attributes, finish) =>
        (∀ one ∈ attributes, one.IsWrittenIn text) ∧ cursor.LeadsTo finish)
      (Diagnostic.IsPlacedIn text) (attributesOnLine limit cursor) := by
  induction limit generalizing cursor with
  | zero =>
      exact .ok ⟨by simp, .refl _⟩
  | succ limit inductionHypothesis =>
      have skips : cursor.LeadsTo cursor.skipGaps := leadsTo_skipGaps
      have standsNext := stands.of_leadsTo skips
      rw [attributesOnLine]
      dsimp only
      split
      · exact .ok ⟨by simp, skips⟩
      · exact .ok ⟨by simp, skips⟩
      · refine (inductionHypothesis (standsNext.of_leadsTo leadsTo_skipComment)).imp ?_
        rintro ⟨others, finish⟩ ⟨areWritten, leadsOn⟩
        exact ⟨areWritten, skips.trans (leadsTo_skipComment.trans leadsOn)⟩
      · split
        · have first := readAttribute_ends standsNext
          split
          · rename_i failed
            exact .error (first.failsOnly.of_eq failed)
          · rename_i succeeded
            obtain ⟨isWritten, passes⟩ := first.of_ok succeeded
            refine .map (inductionHypothesis (standsNext.of_leadsTo passes)) ?_
            rintro ⟨others, finish⟩ ⟨areWritten, leadsOn⟩
            exact ⟨by simpa using ⟨isWritten, areWritten⟩, skips.trans (passes.trans leadsOn)⟩
        · exact .error (isPlacedIn_unexpected standsNext _)

end Attributes

section Selectors

variable {text : List Char} {start cursor : Cursor} {container : Address}

theorem leadsTo_advanceTo
    (rest : List Char) :
    cursor.LeadsTo (advanceTo cursor rest) :=
  leadsTo_advance _

/-- A path that was read is not empty. -/
theorem segments_ne_nil
    {text rest : List Char}
    {path : List String}
    (succeeded : AccessName.segments text = .ok (path, rest)) :
    path ≠ [] := by
  obtain ⟨⟨first, after⟩, _, succeeded⟩ := bind_eq_ok_iff.mp succeeded
  obtain ⟨⟨others, remaining⟩, _, succeeded⟩ := bind_eq_ok_iff.mp succeeded
  cases succeeded
  exact List.cons_ne_nil _ _

theorem code_ne_conflictingKind
    (failure : AccessName.Failure) :
    failure.code ≠ .conflictingKind := by
  cases failure <;> decide

/-- A path that is read has a name at least, and spans from the place to the place after it. -/
theorem readPath_ends
    (stands : start.StandsIn text) :
    Ends (fun (path, after) =>
        start.LeadsTo after ∧ path.span = start.spanTo after ∧ path.segments ≠ [])
      (Diagnostic.IsPlacedIn text) (readPath start) := by
  rw [readPath]
  dsimp only
  have skipsPoint :
      start.LeadsTo (if start.peek? = some '.' then start.advance 1 else start) := by
    split
    · exact leadsTo_advance 1
    · exact .refl start
  generalize (if start.peek? = some '.' then start.advance 1 else start) = first at skipsPoint ⊢
  split
  · rename_i succeeded
    exact .ok ⟨skipsPoint.trans (leadsTo_advanceTo _), rfl, segments_ne_nil succeeded⟩
  · exact .error (isPlacedIn_fail stands (skipsPoint.trans (leadsTo_skipWhile _))
      (code_ne_conflictingKind _) _ _)

/-- A selector leads on, or its failure is placed in the text. -/
theorem readSelected_ends
    (stands : start.StandsIn text) :
    Ends (fun (_, after) => start.LeadsTo after)
      (Diagnostic.IsPlacedIn text) (readSelected start) := by
  rw [readSelected]
  split
  · exact .ok ((leadsTo_advance 1).trans (leadsTo_advanceTo _))
  · exact .error (isPlacedIn_fail stands (leadsTo_advance 1) (code_ne_conflictingKind _) _ _)

/-- The end of a link that is read is located where it starts. -/
theorem readEnd_ends
    (stands : start.StandsIn text) :
    Ends (fun (written, after) =>
        Locates text written.span written.position ∧ start.LeadsTo after)
      (Diagnostic.IsPlacedIn text) (readEnd container start) := by
  rw [readEnd]
  split
  · refine .bind (readSelected_ends stands) fun ⟨_, after⟩ leads => ?_
    exact .ok ⟨locates_spanTo stands leads, leads⟩
  · refine .bind (readSelected_ends stands) fun ⟨_, after⟩ leads => ?_
    exact .ok ⟨locates_spanTo stands leads, leads⟩
  · split
    · refine .bind (readPath_ends stands) fun ⟨_, after⟩ ⟨leads, _, _⟩ => ?_
      exact .ok ⟨locates_spanTo stands leads, leads⟩
    · exact .error (isPlacedIn_unexpected stands _)

end Selectors

section Arrows

variable {text : List Char} {start cursor : Cursor}

/--
A side of an arrow that has no number is reported at the start of the arrow: where the digit
is, if it comes first, and before it otherwise.
-/
theorem readEdge_ends
    (stands : start.StandsIn text)
    (leads : start.LeadsTo cursor)
    (isAhead : digitAhead cursor = true) :
    Ends (fun (_, after) => cursor.LeadsTo after)
      (Diagnostic.IsPlacedIn text) (readEdge start cursor) := by
  have toNext : cursor.LeadsTo (cursor.advance 1) := leadsTo_advance 1
  rw [readEdge]
  split
  · exact .ok toNext
  · refine .error (Diagnostic.isPlacedIn_mark_locate_relate ?_ ?_ ?_)
    · exact (locates_spanTo (stands.of_leadsTo leads) toNext).exists_covers
    · exact (locates_spanTo stands (leads.trans toNext)).exists_covers
    · obtain ⟨passed, passes⟩ := leads
      -- Only a digit at the start of the arrow stands where the error is located.
      by_cases first : passed = []
      · subst first
        have sameOffset : cursor.offset = start.offset := passes.offset_eq
        refine .mistake ?_ ?_
        · rw [spanTo_start, sameOffset]
          exact stands.isAt
        · rintro ⟨⟩
      · refine .arrow (start.spanTo (cursor.advance 1)) ⟨rfl, ?_, ?_, stands.isAt, ?_, ?_⟩
        · obtain ⟨digit, isFirst, isDigit⟩ := (Option.any_eq_true _ _).mp isAhead
          have covers := covers_spanTo (stands.of_leadsTo passes.leadsTo)
            (passes_advance_one isFirst)
          exact ⟨digit, covers, isDigit⟩
        · exact ⟨_, List.mem_append_right _ (List.mem_singleton_self _), rfl, rfl⟩
        · have someBytes := Text.byteLength_eq_zero_iff.not.mpr first
          have isOffset := passes.offset_eq
          simp only [Cursor.spanTo_start]
          omega
        · rw [spanTo_stop toNext, spanTo_stop (passes.leadsTo.trans toNext)]

/-- An edge leads on, or its failure is placed in the text. -/
theorem readEdge?_ends
    {present : Bool}
    (stands : start.StandsIn text)
    (leads : start.LeadsTo cursor)
    (isAhead : present = true → digitAhead cursor = true) :
    Ends (fun (_, after) => cursor.LeadsTo after)
      (Diagnostic.IsPlacedIn text) (readEdge? start cursor present) := by
  rw [readEdge?]
  split
  · rename_i isPresent
    exact .map (readEdge_ends stands leads (isAhead isPresent)) fun _ leadsOn => leadsOn
  · exact .ok (.refl cursor)

/-- An arrow leads on, or its failure is placed in the text. -/
theorem readArrow_ends
    (stands : start.StandsIn text) :
    Ends (fun (_, after) => start.LeadsTo after)
      (Diagnostic.IsPlacedIn text) (readArrow start) := by
  rw [readArrow]
  refine .bind (readEdge?_ends stands (.refl start) id) fun ⟨_, beforeBody⟩ toBody => ?_
  have toEnd := toBody.trans (passes_takeWhile isArrowChar).leadsTo
  dsimp only
  split
  · exact .error (isPlacedIn_fail stands toEnd (by decide) _ _)
  · have isDigitAhead {cursor : Cursor} (isEdge : edgeAhead cursor = true) :
        digitAhead cursor = true :=
      (Bool.and_eq_true_iff.mp isEdge).1
    refine .bind (readEdge?_ends stands toEnd isDigitAhead) fun ⟨_, after⟩ leads => ?_
    exact .ok (toEnd.trans leads)

end Arrows

section Headers

variable {text : List Char} {start : Cursor}

/-- A text starts with an opening bracket and ends with the closing one that matches it. -/
inductive IsBracketed : List Char → Prop where
  | square (inside : List Char) : IsBracketed ('[' :: inside ++ [']'])
  | round (inside : List Char) : IsBracketed ('(' :: inside ++ [')'])

/-- Between the brackets of a header of any kind anything makes a bracketed text. -/
theorem isBracketed_headerBrackets
    (kind : Kind)
    (inside : List Char) :
    IsBracketed ((headerBrackets kind).1 ++ inside ++ (headerBrackets kind).2) := by
  cases kind with
  | group =>
      simpa [headerBrackets] using IsBracketed.square ('[' :: inside ++ [']'])
  | unit =>
      exact .square inside
  | cell =>
      exact .round inside

theorem isOpening_headerBrackets
    (kind : Kind)
    (more : List Char) :
    Diagnostic.IsOpening ((headerBrackets kind).1 ++ more) := by
  cases kind <;> simp [headerBrackets, Diagnostic.IsOpening]

/-- A bracketed text stands under a span, and a position is that of its opening bracket. -/
def IsBracketedIn (text : List Char) (span : Span) (position : Position) : Prop :=
  ∃ under, Marks text span position under ∧ IsBracketed under

/-- The brackets of a header are a place of the text. -/
theorem IsBracketedIn.locates
    {span : Span}
    {position : Position}
    (bracketed : IsBracketedIn text span position) :
    Locates text span position := by
  obtain ⟨under, marks, _⟩ := bracketed
  exact ⟨under, marks⟩

/-- The path of a header is covered by its span, which an opening bracket comes before. -/
structure WrittenPath.IsWrittenIn
    (text : List Char)
    (header : Span)
    (path : WrittenPath) : Prop where
  covers : ∃ under, path.span.Covers text under
  opens :
    ∃ opening : Span, opening.start = header.start ∧ opening.stop = path.span.start ∧
      ∃ under, opening.Covers text under ∧ Diagnostic.IsOpening under
  segments_ne_nil : path.segments ≠ []

/-- A header stands in brackets, with its path and its attributes written between them. -/
structure Header.IsWrittenIn (text : List Char) (header : Header) : Prop where
  brackets : IsBracketedIn text header.span header.position
  path : ∀ path, header.path = some path → path.IsWrittenIn text header.span
  attributes : ∀ one ∈ header.attributes, one.IsWrittenIn text

/-- The path of a header is not empty and spans its text, or its failure is placed in it. -/
theorem readHeaderPath_ends
    (stands : start.StandsIn text) :
    Ends (fun (path?, after) =>
        start.LeadsTo after ∧ ∀ path, path? = some path → path.segments ≠ [] ∧
          ∃ finish, start.LeadsTo finish ∧ path.span = start.spanTo finish)
      (Diagnostic.IsPlacedIn text) (readHeaderPath start) := by
  rw [readHeaderPath]
  split
  · refine .bind (readPath_ends stands) fun ⟨path, after⟩ ⟨leads, isSpan, nonempty⟩ => ?_
    dsimp only
    split
    · exact .ok ⟨.refl start, nofun⟩
    · refine .ok ⟨leads.trans leadsTo_skipGaps, ?_⟩
      rintro _ ⟨⟩
      exact ⟨nonempty, after, leads, isSpan⟩
  · exact .ok ⟨.refl start, nofun⟩

/-- A header that is read where its bracket stands is written from there to the place after it. -/
theorem readHeader_ends
    (kind : Kind)
    (stands : start.StandsIn text)
    (opens : (headerBrackets kind).1 <+: start.rest) :
    Ends (fun (header, after) =>
        header.IsWrittenIn text ∧ start.LeadsTo after ∧ header.span.start = start.offset)
      (Diagnostic.IsPlacedIn text) (readHeader kind start) := by
  have isBracketed := isBracketed_headerBrackets kind
  have isOpening := isOpening_headerBrackets kind
  rw [readHeader]
  generalize headerBrackets kind = brackets at opens isBracketed isOpening ⊢
  obtain ⟨opener, closer⟩ := brackets
  dsimp only at opens isBracketed isOpening ⊢
  have overOpener := passes_advance_length opens
  obtain ⟨trivia, overTrivia⟩ := (start.advance opener.length).leadsTo_skipTrivia
  have toPath := overOpener.trans overTrivia
  refine .bind (readHeaderPath_ends (stands.of_leadsTo toPath.leadsTo)) ?_
  rintro ⟨path?, afterPath⟩ ⟨leadsPath, isPath⟩
  refine .bind (attributesWithin_ends _ stands (toPath.leadsTo.trans leadsPath)) ?_
  rintro ⟨attributes, finish⟩ ⟨areWritten, leadsFinish⟩
  obtain ⟨inside, overInside⟩ := leadsPath.trans leadsFinish
  have toFinish := toPath.trans overInside
  dsimp only
  split
  · rename_i closes
    have overCloser := passes_advance_length (List.isPrefixOf_iff_prefix.mp closes)
    have passed : start.Passes (opener ++ (trivia ++ inside) ++ closer)
        (finish.advance closer.length) := by
      simpa using toFinish.trans overCloser
    refine .ok
      ⟨⟨⟨_, marks_spanTo stands passed, isBracketed _⟩, ?_, areWritten⟩, passed.leadsTo, rfl⟩
    rintro path isSome
    obtain ⟨nonempty, afterName, leadsName, isSpan⟩ := isPath path isSome
    refine ⟨?_, ⟨start.spanTo (start.advance opener.length).skipTrivia, rfl, ?_, ?_⟩, nonempty⟩
    · rw [isSpan]
      exact (locates_spanTo (stands.of_leadsTo toPath.leadsTo) leadsName).exists_covers
    · rw [isSpan, spanTo_stop toPath.leadsTo, spanTo_start]
    · exact ⟨_, covers_spanTo stands toPath, isOpening trivia⟩
  · exact .error (isPlacedIn_unexpected (stands.of_leadsTo toFinish.leadsTo) _)

end Headers

end Outline

end BoxDiagram
