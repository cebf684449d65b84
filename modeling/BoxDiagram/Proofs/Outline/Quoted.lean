import BoxDiagram.Outline.Attribute
import BoxDiagram.Proofs.Outline.Cursor
import BoxDiagram.Proofs.Outline.Grammar

namespace BoxDiagram.Outline

open AccessName (HasBadEscape IsUnclosed Stops escape)

/-!
# One rule for quoted text

The values of attributes and the segments of names are quoted by one rule, but each has a
reader of its own.  Both read an escaped text in the same way and stop where it stops, so
they agree on all texts that start with a quote.
-/

/-- Escaping makes no text shorter. -/
theorem length_le_length_escape
    (text : List Char) :
    text.length ≤ (escape text).length := by
  induction text with
  | nil =>
      exact Nat.le_refl _
  | cons char text inductionHypothesis =>
      rw [escape]
      split <;> simp only [List.length_cons] <;> omega

section

variable {cursor : Cursor} {text stop : List Char}

/-- An escaped text is read character by character, each with its backslash if it has one. -/
theorem quotedText_escape
    (opening : Cursor)
    (limit : Nat)
    (isRest : cursor.rest = escape text ++ stop) :
    quotedText opening (text.length + limit) cursor =
      (quotedText opening limit (cursor.advance (escape text).length)).map
        fun (value, after) => (text ++ value, after) := by
  induction text generalizing cursor with
  | nil =>
      rw [List.length_nil, Nat.zero_add]
      exact (id_map _).symm
  | cons char text inductionHypothesis =>
      rw [List.length_cons, Nat.succ_add, quotedText, isRest]
      by_cases special : char = '"' ∨ char = '\\'
      · have passes : cursor.Passes ['\\', char] (cursor.advance 2) :=
          Cursor.passes_advance_length ⟨escape text ++ stop, by simp [isRest, escape, special]⟩
        have textFollows : (cursor.advance 2).rest = escape text ++ stop := by
          simpa [isRest, escape, special] using passes.rest_eq.symm
        have readsOn := inductionHypothesis textFollows
        have advances : cursor.advance (escape (char :: text)).length =
            (cursor.advance 2).advance (escape text).length := by
          rw [← Cursor.advance_add]
          simp [escape, special, Nat.add_comm 2]
        rw [advances]
        generalize quotedText opening limit _ = reading at readsOn ⊢
        rcases special with rfl | rfl
        all_goals
          simp only [escape, true_or, or_true, if_true, List.cons_append, readsOn]
          cases reading <;> rfl
      · obtain ⟨notQuote, notBackslash⟩ := not_or.mp special
        have passes : cursor.Passes [char] (cursor.advance 1) :=
          Cursor.passes_advance_length ⟨escape text ++ stop, by simp [isRest, escape, special]⟩
        have textFollows : (cursor.advance 1).rest = escape text ++ stop := by
          simpa [isRest, escape, special] using passes.rest_eq.symm
        have readsOn := inductionHypothesis textFollows
        have advances : cursor.advance (escape (char :: text)).length =
            (cursor.advance 1).advance (escape text).length := by
          rw [← Cursor.advance_add]
          simp [escape, special, Nat.add_comm 1]
        rw [advances]
        generalize quotedText opening limit _ = reading at readsOn ⊢
        simp only [escape, special, if_false, List.cons_append, readsOn]
        cases reading <;> rfl

/-- Inside quotes an escaped text is read up to what stops it. -/
theorem quotedText_of_stops
    (opening : Cursor)
    {result : Except AccessName.Failure (List Char)}
    {limit : Nat}
    (stops : Stops stop result)
    (isRest : cursor.rest = escape text ++ stop)
    (enough : text.length < limit) :
    match result with
    | .ok _ =>
        ∃ after, quotedText opening limit cursor = .ok (text, after) ∧
          cursor.Passes (escape text ++ ['"']) after
    | .error failure =>
        ∃ diagnostic, quotedText opening limit cursor = .error diagnostic ∧
          diagnostic.code = some failure.code := by
  obtain ⟨more, rfl⟩ := Nat.exists_eq_add_of_lt enough
  have passes : cursor.Passes (escape text) (cursor.advance (escape text).length) :=
    Cursor.passes_advance_length ⟨stop, isRest.symm⟩
  have isStop : (cursor.advance (escape text).length).rest = stop := by
    simpa [isRest] using passes.rest_eq.symm
  rw [Nat.add_assoc, quotedText_escape opening (more + 1) isRest, quotedText, isStop]
  cases stops with
  | closed rest =>
      have standsQuote : ['"'] <+: (cursor.advance (escape text).length).rest :=
        ⟨rest, isStop.symm⟩
      have closes := Cursor.passes_advance_length standsQuote
      exact ⟨_, by simp [Except.map], passes.trans closes⟩
  | @badEscape rest isNoEscape =>
      cases rest with
      | nil =>
          exact ⟨_, rfl, rfl⟩
      | cons char rest =>
          obtain ⟨notQuote, notBackslash⟩ := not_or.mp (isNoEscape char rfl)
          simp only []
          split
          · rename_i isQuote
            exact absurd (List.cons.inj isQuote).1 notQuote
          · rename_i isBackslash
            exact absurd (List.cons.inj isBackslash).1 notBackslash
          · exact ⟨_, rfl, rfl⟩
  | unclosed =>
      exact ⟨_, rfl, rfl⟩

end

/--
On a text that starts with a quote both readers of quoted texts give the same text after the
same characters, or both refuse it under the same code: for the first backslash that escapes
nothing, or if there is none, for the closing quote that is missing.
-/
theorem quoted_readers_agree
    (opening : Cursor)
    (inside : List Char)
    (startsQuoted : opening.rest = '"' :: inside) :
    (∃ text consumed rest after,
      quotedString opening = .ok (String.ofList text, after) ∧
      AccessName.segment opening.rest = .ok (text, rest) ∧
      opening.rest = consumed ++ rest ∧ after.rest = rest ∧
      after.offset = opening.offset + Text.byteLength consumed) ∨
    ∃ diagnostic failure,
      quotedString opening = .error diagnostic ∧
      AccessName.segment opening.rest = .error failure ∧
      diagnostic.code = some failure.code ∧
      (failure = .invalidEscape ∧ HasBadEscape opening.rest ∨
        failure = .unterminatedQuote ∧ IsUnclosed opening.rest ∧ ¬ HasBadEscape opening.rest) := by
  obtain ⟨text, stop, result, rfl, stops⟩ := AccessName.exists_stops inside
  have opens : opening.Passes ['"'] (opening.advance 1) :=
    Cursor.passes_advance_length ⟨_, startsQuoted.symm⟩
  have isRest : (opening.advance 1).rest = escape text ++ stop := by
    simpa [startsQuoted] using opens.rest_eq.symm
  have enough : text.length < opening.rest.length := by
    have longer := length_le_length_escape text
    simp only [startsQuoted, List.length_cons, List.length_append]
    omega
  have readsValue := quotedText_of_stops opening stops isRest enough
  have readsSegment : AccessName.segment opening.rest = result.map fun rest => (text, rest) := by
    rw [startsQuoted]
    exact AccessName.quoted_of_stops text stops
  cases result with
  | ok rest =>
      obtain ⟨after, reads, closes⟩ := readsValue
      have passes := opens.trans closes
      have sameRest : after.rest = rest := by
        cases stops
        simpa [isRest] using closes.rest_eq.symm
      refine .inl ⟨text, _, rest, after, ?_, readsSegment, ?_, sameRest, passes.offset_eq⟩
      · rw [quotedString, reads]
        rfl
      · rw [passes.rest_eq, sameRest]
  | error failure =>
      obtain ⟨diagnostic, fails, hasCode⟩ := readsValue
      refine .inr ⟨diagnostic, failure, ?_, readsSegment, hasCode, ?_⟩
      · rw [quotedString, fails]
        rfl
      cases stops with
      | badEscape =>
          exact .inl ⟨rfl, AccessName.segment_eq_invalidEscape_iff.mp readsSegment⟩
      | unclosed =>
          exact .inr ⟨rfl, AccessName.segment_eq_unterminatedQuote_iff.mp readsSegment⟩

/-- An escaped quote and a line end are read alike, and a backslash at the end is refused. -/
theorem exists_quoted_texts_read_alike :
    (∃ text consumed rest after,
      quotedString (.start "\"é\\\"\n\" x".toList) = .ok (String.ofList text, after) ∧
        AccessName.segment "\"é\\\"\n\" x".toList = .ok (text, rest) ∧
          "\"é\\\"\n\" x".toList = consumed ++ rest ∧ after.rest = rest ∧
            after.offset = Text.byteLength consumed) ∧
      ∃ diagnostic,
        quotedString (.start "\"a\\".toList) = .error diagnostic ∧
          AccessName.segment "\"a\\".toList = .error .invalidEscape ∧
            diagnostic.code = some .invalidEscape := by
  constructor
  · have reads :
        AccessName.segment "\"é\\\"\n\" x".toList = .ok ("é\"\n".toList, " x".toList) := by
      decide +kernel
    rcases quoted_readers_agree (.start "\"é\\\"\n\" x".toList) _ rfl with
      ⟨text, consumed, rest, after, readsValue, readsSegment, isConsumed, isRest, isOffset⟩ |
        ⟨_, _, _, fails, _⟩
    · exact ⟨text, consumed, rest, after, readsValue, readsSegment, isConsumed, isRest, by
        simpa [Cursor.start] using isOffset⟩
    · cases reads.symm.trans fails
  · have fails : AccessName.segment "\"a\\".toList = .error .invalidEscape := by
      decide +kernel
    rcases quoted_readers_agree (.start "\"a\\".toList) _ rfl with
      ⟨_, _, _, _, _, reads, _⟩ | ⟨diagnostic, failure, failsValue, failsSegment, hasCode, _⟩
    · cases reads.symm.trans fails
    · cases failsSegment.symm.trans fails
      exact ⟨diagnostic, failsValue, fails, hasCode⟩

end BoxDiagram.Outline
