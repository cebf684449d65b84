import BoxDiagram.Outline.AccessName
import BoxDiagram.Proofs.Attempt
import Mathlib.Data.List.Basic
import Mathlib.Data.List.TakeDrop
import Mathlib.Data.List.TakeWhile

namespace BoxDiagram.AccessName

/-!
# The grammar of access names

What an access name looks like is said here without the functions that read it.  A name is
read exactly if it looks like that, a prefix that is read is the longest one that does, and
a name that is refused is refused for the first segment that is broken, if there is one.
-/

/-! ## Escaped text -/

/-- What stops an escaped text, and what comes of reading up to there. -/
inductive Stops : List Char → Except Failure (List Char) → Prop where
  | closed (rest : List Char) : Stops ('"' :: rest) (.ok rest)
  | badEscape {rest : List Char} :
      (∀ char ∈ rest.head?, ¬ (char = '"' ∨ char = '\\')) →
        Stops ('\\' :: rest) (.error .invalidEscape)
  | unclosed : Stops [] (.error .unterminatedQuote)

/-- Any text is an escaped text and something that stops it. -/
theorem exists_stops
    (inside : List Char) :
    ∃ text stop result, inside = escape text ++ stop ∧ Stops stop result := by
  induction inside using quoted.induct with
  | case1 =>
      exact ⟨[], [], _, rfl, .unclosed⟩
  | case2 rest =>
      exact ⟨[], '"' :: rest, _, rfl, .closed rest⟩
  | case3 rest inductionHypothesis =>
      obtain ⟨text, stop, result, rfl, stops⟩ := inductionHypothesis
      exact ⟨'"' :: text, stop, result, rfl, stops⟩
  | case4 rest inductionHypothesis =>
      obtain ⟨text, stop, result, rfl, stops⟩ := inductionHypothesis
      exact ⟨'\\' :: text, stop, result, rfl, stops⟩
  | case5 rest _ beforeNoQuote beforeNoBackslash =>
      refine ⟨[], '\\' :: rest, _, rfl, .badEscape ?_⟩
      intro char isNext special
      obtain ⟨more, rfl⟩ := List.head?_eq_some_iff.mp isNext
      rcases special with rfl | rfl
      · exact beforeNoQuote more rfl rfl
      · exact beforeNoBackslash more rfl rfl
  | case6 char rest notQuote _ _ notBackslash inductionHypothesis =>
      obtain ⟨text, stop, result, rfl, stops⟩ := inductionHypothesis
      have plain : ¬ (char = '"' ∨ char = '\\') := not_or.mpr ⟨notQuote, notBackslash⟩
      exact ⟨char :: text, stop, result, by simp [escape, plain], stops⟩

/-- Inside quotes an escaped text is read up to what stops it. -/
theorem quoted_of_stops
    {stop : List Char}
    {result : Except Failure (List Char)}
    (text : List Char)
    (stops : Stops stop result) :
    quoted (escape text ++ stop) = result.map fun rest => (text, rest) := by
  induction text with
  | nil =>
      cases stops with
      | closed rest =>
          rfl
      | unclosed =>
          rfl
      | @badEscape rest isNoEscape =>
          cases rest with
          | nil =>
              rfl
          | cons char rest =>
              obtain ⟨notQuote, notBackslash⟩ := not_or.mp (isNoEscape char rfl)
              simp [escape, quoted, notQuote, notBackslash, Except.map]
  | cons char text inductionHypothesis =>
      by_cases special : char = '"' ∨ char = '\\'
      · rcases special with rfl | rfl
        all_goals cases result <;> simp [escape, quoted, inductionHypothesis, Except.map]
      · obtain ⟨notQuote, notBackslash⟩ := not_or.mp special
        cases result <;>
          simp [escape, quoted, notQuote, notBackslash, inductionHypothesis, Except.map]

/-- A quoted text is read back up to the quote that closes it. -/
theorem quoted_escape
    (text rest : List Char) :
    quoted (escape text ++ '"' :: rest) = .ok (text, rest) :=
  quoted_of_stops text (.closed rest)

/-! ## Segments -/

/-- A segment as it is written: a word, or an escaped text between quotes. -/
inductive IsSegment : List Char → String → Prop where
  | bare {word : List Char} :
      word ≠ [] → (∀ char ∈ word, Text.isWordChar char = true) →
        IsSegment word (String.ofList word)
  | quoted (name : String) : IsSegment ('"' :: escape name.toList ++ ['"']) name

/-- A quoted segment with a backslash that stands before no quote and no backslash. -/
def HasBadEscape (start : List Char) : Prop :=
  ∃ text rest, start = '"' :: escape text ++ '\\' :: rest ∧
    ∀ char ∈ rest.head?, ¬ (char = '"' ∨ char = '\\')

/-- A quoted segment without a quote that closes it. -/
def IsUnclosed (start : List Char) : Prop :=
  ∃ inside, start = '"' :: inside ∧ ∀ text rest, inside ≠ escape text ++ '"' :: rest

/-- A word does not start with a quote, so it is read up to its end. -/
theorem segment_of_word
    {word : List Char}
    (rest : List Char)
    (nonempty : word ≠ [])
    (areWordChars : ∀ char ∈ word, Text.isWordChar char = true) :
    segment (word ++ rest) =
      .ok (word ++ rest.takeWhile Text.isWordChar, rest.dropWhile Text.isWordChar) := by
  obtain ⟨first, more, rfl⟩ := List.exists_cons_of_ne_nil nonempty
  rw [segment, List.takeWhile_append_of_pos areWordChars,
    List.dropWhile_append_of_pos areWordChars]
  · rfl
  intro quotedRest startsQuoted
  obtain rfl : first = '"' := (List.cons.inj startsQuoted).1
  exact absurd (areWordChars '"' (by simp)) (by decide)

/-- A segment is read up to its end, unless a word goes on after it. -/
theorem segment_of_isSegment
    {written rest : List Char}
    {name : String}
    (isSegment : IsSegment written name)
    (ends : ∀ char ∈ rest.head?, Text.isWordChar char = false) :
    segment (written ++ rest) = .ok (name.toList, rest) := by
  cases isSegment with
  | bare nonempty areWordChars =>
      rw [segment_of_word rest nonempty areWordChars, String.toList_ofList]
      cases rest with
      | nil =>
          simp
      | cons char rest =>
          simp [ends char rfl]
  | quoted =>
      simpa [segment] using quoted_escape name.toList rest

/-- Where a segment is written, one is read that ends no earlier. -/
theorem exists_segment_of_isSegment
    {written : List Char}
    {name : String}
    (rest : List Char)
    (isSegment : IsSegment written name) :
    ∃ read after, segment (written ++ rest) = .ok (read, after) ∧ after <:+ rest := by
  cases isSegment with
  | bare nonempty areWordChars =>
      exact ⟨_, _, segment_of_word rest nonempty areWordChars, List.dropWhile_suffix _⟩
  | quoted =>
      exact ⟨_, rest, by simpa [segment] using quoted_escape name.toList rest, List.suffix_rfl⟩

/-- At the start of a text stands an escaped text behind a quote, a word, or no segment. -/
theorem segment_cases
    (text : List Char) :
    (∃ decoded stop result, text = '"' :: escape decoded ++ stop ∧ Stops stop result ∧
      segment text = result.map fun rest => (decoded, rest)) ∨
    (∃ word rest, text = word ++ rest ∧ IsSegment word (String.ofList word) ∧
      segment text = .ok (word, rest)) ∨
    segment text = .error .missingSegment := by
  by_cases startsQuoted : ∃ inside, text = '"' :: inside
  · obtain ⟨inside, rfl⟩ := startsQuoted
    obtain ⟨decoded, stop, result, rfl, stops⟩ := exists_stops inside
    exact .inl ⟨decoded, stop, result, rfl, stops, quoted_of_stops decoded stops⟩
  · rw [segment.eq_2 text fun inside isQuoted => startsQuoted ⟨inside, isQuoted⟩]
    split
    · exact .inr (.inr rfl)
    · rename_i nonempty
      exact .inr (.inl ⟨_, _, List.takeWhile_append_dropWhile.symm,
        .bare nonempty fun _ member => List.mem_takeWhile_imp member, rfl⟩)

/-- What is read as a segment is written as one. -/
theorem isSegment_of_segment
    {text name rest : List Char}
    (read : segment text = .ok (name, rest)) :
    ∃ written, text = written ++ rest ∧ IsSegment written (String.ofList name) := by
  rcases segment_cases text with
    ⟨decoded, stop, result, rfl, stops, reads⟩ | ⟨word, after, rfl, isSegment, reads⟩ | reads
  · rw [reads] at read
    cases stops with
    | badEscape =>
        cases read
    | unclosed =>
        cases read
    | closed =>
        cases read
        refine ⟨'"' :: escape name ++ ['"'], by simp, ?_⟩
        simpa using IsSegment.quoted (String.ofList name)
  · cases reads.symm.trans read
    exact ⟨name, rfl, isSegment⟩
  · cases reads.symm.trans read

/-- Reading a segment fails for an escape exactly if there is a bad one. -/
theorem segment_eq_invalidEscape_iff
    {text : List Char} :
    segment text = .error .invalidEscape ↔ HasBadEscape text := by
  constructor
  · intro failed
    rcases segment_cases text with
      ⟨decoded, stop, result, rfl, stops, reads⟩ | ⟨_, _, _, _, reads⟩ | reads
    · rw [reads] at failed
      cases stops with
      | closed =>
          cases failed
      | badEscape isNoEscape =>
          exact ⟨decoded, _, rfl, isNoEscape⟩
      | unclosed =>
          cases failed
    · cases reads.symm.trans failed
    · cases reads.symm.trans failed
  · rintro ⟨decoded, rest, rfl, isNoEscape⟩
    exact quoted_of_stops decoded (.badEscape isNoEscape)

/-- Otherwise reading a segment fails for its quotes exactly if they are not closed. -/
theorem segment_eq_unterminatedQuote_iff
    {text : List Char} :
    segment text = .error .unterminatedQuote ↔ IsUnclosed text ∧ ¬ HasBadEscape text := by
  constructor
  · intro failed
    refine ⟨?_, fun hasBadEscape => ?_⟩
    · rcases segment_cases text with
        ⟨decoded, stop, result, rfl, _, _⟩ | ⟨_, _, _, _, reads⟩ | reads
      · refine ⟨_, rfl, fun other rest closed => ?_⟩
        rw [List.cons_append, show escape decoded ++ stop = _ from closed] at failed
        cases (quoted_escape other rest).symm.trans failed
      · cases reads.symm.trans failed
      · cases reads.symm.trans failed
    · cases (segment_eq_invalidEscape_iff.mpr hasBadEscape).symm.trans failed
  · rintro ⟨⟨inside, rfl, isUnclosed⟩, hasNoBadEscape⟩
    obtain ⟨decoded, stop, result, rfl, stops⟩ := exists_stops inside
    cases stops with
    | closed rest =>
        exact absurd rfl (isUnclosed decoded rest)
    | badEscape isNoEscape =>
        exact absurd ⟨decoded, _, rfl, isNoEscape⟩ hasNoBadEscape
    | unclosed =>
        exact quoted_of_stops decoded .unclosed

/-! ## Paths -/

/-- A path as it is written: one or more segments with points between them. -/
inductive IsPath : List Char → List String → Prop where
  | last {written : List Char} {name : String} : IsSegment written name → IsPath written [name]
  | cons {written rest : List Char} {name : String} {path : List String} :
      IsSegment written name → IsPath rest path → IsPath (written ++ '.' :: rest) (name :: path)

/-- A segment is to start where the text does, and after a point behind a path. -/
inductive Expects (text : List Char) : List Char → Prop where
  | first : Expects text text
  | next {written start : List Char} {path : List String} :
      IsPath written path → text = written ++ '.' :: start → Expects text start

/-- What is read in all, by what is read behind the point that follows a path. -/
def readOn (path : List String) (next : List Char) :
    Except Failure (List String × List Char) → Except Failure (List String × List Char)
  | .ok (others, rest) => .ok (path ++ others, rest)
  | .error .missingSegment => .ok (path, '.' :: next)
  | .error failure => .error failure

/-- Reading on behind two parts is reading on behind both together. -/
theorem readOn_readOn
    (first second : List String)
    (next other : List Char)
    (reading : Except Failure (List String × List Char)) :
    readOn first other (readOn second next reading) = readOn (first ++ second) next reading := by
  cases reading with
  | ok =>
      simp [readOn]
  | error failure =>
      cases failure <;> rfl

/-- A segment leaves no more than there was. -/
theorem length_le_of_segment
    {text name rest : List Char}
    (read : segment text = .ok (name, rest)) :
    rest.length ≤ text.length := by
  obtain ⟨written, rfl, _⟩ := isSegment_of_segment read
  simp

/-- The bound on the number of segments does not matter if it is that of the characters or more. -/
theorem moreSegments_eq
    {text : List Char}
    {limit other : Nat}
    (enough : text.length ≤ limit)
    (otherEnough : text.length ≤ other) :
    moreSegments limit text = moreSegments other text := by
  induction limit generalizing text other with
  | zero =>
      obtain rfl := List.length_eq_zero_iff.mp (Nat.le_zero.mp enough)
      cases other <;> rfl
  | succ limit inductionHypothesis =>
      cases text with
      | nil =>
          cases other <;> rfl
      | cons char rest =>
          obtain ⟨other, rfl⟩ := Nat.exists_eq_succ_of_ne_zero (Nat.ne_zero_of_lt otherEnough)
          by_cases isPoint : char = '.'
          · subst isPoint
            rw [moreSegments, moreSegments]
            split
            · rename_i first after read
              have shorter := length_le_of_segment read
              simp only [List.length_cons] at enough otherEnough
              rw [inductionHypothesis (by omega) (show after.length ≤ other by omega)]
            · rfl
            · rfl
          · simp [moreSegments, isPoint]

/-- A point that no segment follows is left, so that no segment is missing. -/
theorem moreSegments_ne_missingSegment
    (limit : Nat)
    (text : List Char) :
    moreSegments limit text ≠ .error .missingSegment := by
  induction limit, text using moreSegments.induct with
  | case1 limit rest first after read inductionHypothesis =>
      intro missing
      rw [moreSegments, read] at missing
      dsimp only at missing
      cases readsOn : moreSegments limit after with
      | ok =>
          rw [readsOn] at missing
          cases missing
      | error failure =>
          rw [readsOn] at missing
          cases missing
          exact inductionHypothesis readsOn
  | case2 limit rest failed =>
      rw [moreSegments, failed]
      exact nofun
  | case3 limit rest failure notMissing failed =>
      rw [moreSegments, failed]
      cases failure with
      | missingSegment =>
          exact absurd rfl notMissing
      | unterminatedQuote =>
          exact nofun
      | invalidEscape =>
          exact nofun
  | case4 limit text noPoint =>
      rw [moreSegments.eq_2 limit text noPoint]
      exact nofun

/-- A segment that does not stand before a point is a whole path. -/
theorem segments_of_no_point
    {text name after : List Char}
    (read : segment text = .ok (name, after))
    (noPoint : ∀ next, after ≠ '.' :: next) :
    segments text = .ok ([String.ofList name], after) := by
  rw [segments, read, Attempt.ok_bind]
  dsimp only
  cases after with
  | nil =>
      rfl
  | cons char rest =>
      have notPoint : char ≠ '.' := fun isPoint => noPoint rest (by rw [isPoint])
      simp [moreSegments, notPoint]

/-- Behind a segment and a point the reading starts again. -/
theorem segments_of_point
    {text name next : List Char}
    (read : segment text = .ok (name, '.' :: next)) :
    segments text = readOn [String.ofList name] next (segments next) := by
  rw [segments, read, Attempt.ok_bind]
  dsimp only
  rw [List.length_cons, moreSegments, segments]
  cases readsNext : segment next with
  | error failure =>
      cases failure <;> rfl
  | ok value =>
      obtain ⟨second, after⟩ := value
      rw [Attempt.ok_bind]
      dsimp only
      rw [moreSegments_eq (length_le_of_segment readsNext) (Nat.le_refl _)]
      cases readsOn : moreSegments after.length after with
      | ok =>
          rfl
      | error failure =>
          cases failure with
          | missingSegment =>
              exact absurd readsOn (moreSegments_ne_missingSegment _ _)
          | unterminatedQuote =>
              rfl
          | invalidEscape =>
              rfl

/-- What the first segment fails with, the path fails with. -/
theorem segments_of_failure
    {text : List Char}
    {failure : Failure}
    (failed : segment text = .error failure) :
    segments text = .error failure := by
  rw [segments, failed]
  rfl

/-- Behind a path and a point the reading starts again. -/
theorem segments_of_isPath
    {written : List Char}
    {path : List String}
    (next : List Char)
    (isPath : IsPath written path) :
    segments (written ++ '.' :: next) = readOn path next (segments next) := by
  have atPoint : ∀ char ∈ ('.' :: next).head?, Text.isWordChar char = false := by
    rintro char ⟨⟩
    decide
  induction isPath with
  | last isSegment =>
      rw [segments_of_point (segment_of_isSegment isSegment atPoint), String.ofList_toList]
  | @cons written rest name path isSegment _ inductionHypothesis =>
      have beforePoint :
          ∀ char ∈ ('.' :: (rest ++ '.' :: next)).head?, Text.isWordChar char = false := by
        rintro char ⟨⟩
        decide
      have read := segment_of_isSegment isSegment beforePoint
      rw [List.append_assoc, List.cons_append, segments_of_point read, String.ofList_toList,
        inductionHypothesis, readOn_readOn, List.singleton_append]

/-- A text that is a path is read to its end. -/
theorem IsPath.segments_eq
    {written : List Char}
    {path : List String}
    (isPath : IsPath written path) :
    segments written = .ok (path, []) := by
  induction isPath with
  | @last written name isSegment =>
      have read : segment (written ++ []) = .ok (name.toList, []) :=
        segment_of_isSegment isSegment (by simp)
      rw [List.append_nil] at read
      rw [segments_of_no_point read (by simp), String.ofList_toList]
  | @cons written rest name path isSegment _ inductionHypothesis =>
      rw [segments_of_isPath rest (.last isSegment), inductionHypothesis]
      rfl

/-- A segment is still expected behind a segment and a point. -/
theorem Expects.behind
    {written rest start : List Char}
    {name : String}
    (expects : Expects rest start)
    (isSegment : IsSegment written name) :
    Expects (written ++ '.' :: rest) start := by
  cases expects with
  | first =>
      exact .next (.last isSegment) rfl
  | next isPath isRest =>
      exact .next (.cons isSegment isPath) (by simp [isRest])

/-- A text starts with the path that is read, or the reading fails at a segment it comes to. -/
theorem segments_cases
    (text : List Char) :
    (∃ written path rest, text = written ++ rest ∧ IsPath written path ∧
      segments text = .ok (path, rest)) ∨
    ∃ start failure, Expects text start ∧ segment start = .error failure ∧
      segments text = .error failure := by
  induction length : text.length using Nat.strong_induction_on generalizing text with
  | _ count inductionHypothesis =>
      cases read : segment text with
      | error failure =>
          exact .inr ⟨text, failure, .first, read, segments_of_failure read⟩
      | ok value =>
          obtain ⟨name, after⟩ := value
          obtain ⟨written, rfl, isSegment⟩ := isSegment_of_segment read
          by_cases isPoint : ∃ next, after = '.' :: next
          · obtain ⟨next, rfl⟩ := isPoint
            have shorter : next.length < count := by
              simp only [List.length_append, List.length_cons] at length
              omega
            have readsOn := segments_of_point read
            rcases inductionHypothesis _ shorter next rfl with
              ⟨more, path, rest, rfl, isPath, reads⟩ | ⟨start, failure, expects, failed, reads⟩
            · rw [reads] at readsOn
              exact .inl ⟨_, _, rest, by simp, .cons isSegment isPath, readsOn⟩
            · rw [reads] at readsOn
              cases failure with
              | missingSegment =>
                  exact .inl ⟨written, _, _, rfl, .last isSegment, readsOn⟩
              | unterminatedQuote =>
                  exact .inr ⟨start, _, expects.behind isSegment, failed, readsOn⟩
              | invalidEscape =>
                  exact .inr ⟨start, _, expects.behind isSegment, failed, readsOn⟩
          · exact .inl ⟨written, _, after, rfl, .last isSegment,
              segments_of_no_point read (not_exists.mp isPoint)⟩

/-- A broken segment that the reading comes to is what it fails for. -/
theorem segments_eq_error_of_expects
    {text start : List Char}
    {failure : Failure}
    (expects : Expects text start)
    (failed : segment start = .error failure)
    (broken : failure ≠ .missingSegment) :
    segments text = .error failure := by
  cases expects with
  | first =>
      exact segments_of_failure failed
  | next isPath isText =>
      rw [isText, segments_of_isPath start isPath, segments_of_failure failed]
      cases failure with
      | missingSegment =>
          exact absurd rfl broken
      | unterminatedQuote =>
          rfl
      | invalidEscape =>
          rfl

/-- What is read as a path is written as one. -/
theorem isPath_of_segments
    {text rest : List Char}
    {path : List String}
    (read : segments text = .ok (path, rest)) :
    ∃ written, text = written ++ rest ∧ IsPath written path := by
  rcases segments_cases text with
    ⟨written, other, after, isText, isPath, reads⟩ | ⟨_, _, _, _, reads⟩
  · cases reads.symm.trans read
    exact ⟨written, isText, isPath⟩
  · cases reads.symm.trans read

theorem readOn_ne_missingSegment
    (path : List String)
    (next : List Char)
    (reading : Except Failure (List String × List Char)) :
    readOn path next reading ≠ .error .missingSegment := by
  cases reading with
  | ok =>
      exact nofun
  | error failure =>
      cases failure <;> exact nofun

/-- Behind a segment that is read, what is left is part of what follows it. -/
theorem suffix_of_segment
    {text name after : List Char}
    (read : segment text = .ok (name, after)) :
    segments text ≠ .error .missingSegment ∧
    ∀ path rest, segments text = .ok (path, rest) → rest <:+ after := by
  by_cases isPoint : ∃ next, after = '.' :: next
  · obtain ⟨next, rfl⟩ := isPoint
    rw [segments_of_point read]
    refine ⟨readOn_ne_missingSegment _ _ _, fun path rest reads => ?_⟩
    cases readsNext : segments next with
    | ok value =>
        obtain ⟨others, remaining⟩ := value
        obtain ⟨written, rfl, _⟩ := isPath_of_segments readsNext
        rw [readsNext] at reads
        cases reads
        exact (List.suffix_append written _).trans (List.suffix_cons '.' _)
    | error failure =>
        rw [readsNext] at reads
        cases failure with
        | missingSegment =>
            cases reads
            exact List.suffix_rfl
        | unterminatedQuote =>
            cases reads
        | invalidEscape =>
            cases reads
  · rw [segments_of_no_point read (not_exists.mp isPoint)]
    refine ⟨nofun, fun path rest reads => ?_⟩
    cases reads
    exact List.suffix_rfl

/-- Where a path is written, no segment is missing, and what is read ends no earlier. -/
theorem IsPath.suffix_of_segments
    {written : List Char}
    {path : List String}
    (isPath : IsPath written path)
    (next : List Char) :
    segments (written ++ next) ≠ .error .missingSegment ∧
    ∀ read rest, segments (written ++ next) = .ok (read, rest) → rest <:+ next := by
  induction isPath with
  | last isSegment =>
      obtain ⟨name, after, read, isAfter⟩ := exists_segment_of_isSegment next isSegment
      obtain ⟨notMissing, isRest⟩ := suffix_of_segment read
      exact ⟨notMissing, fun path rest reads => (isRest path rest reads).trans isAfter⟩
  | @cons written rest name path isSegment _ inductionHypothesis =>
      obtain ⟨notMissing, isSuffix⟩ := inductionHypothesis
      rw [List.append_assoc, List.cons_append, segments_of_isPath _ (.last isSegment)]
      refine ⟨readOn_ne_missingSegment _ _ _, fun read remaining reads => ?_⟩
      cases readsNext : segments (rest ++ next) with
      | ok value =>
          rw [readsNext] at reads
          cases reads
          exact isSuffix _ _ readsNext
      | error failure =>
          rw [readsNext] at reads
          cases failure with
          | missingSegment =>
              exact absurd readsNext notMissing
          | unterminatedQuote =>
              cases reads
          | invalidEscape =>
              cases reads

/-- A path ends with a character of a word or with a quote. -/
theorem IsPath.exists_last
    {written : List Char}
    {path : List String}
    (isPath : IsPath written path) :
    ∃ before last, written = before ++ [last] ∧ last ≠ '.' := by
  induction isPath with
  | last isSegment =>
      cases isSegment with
      | bare nonempty areWordChars =>
          refine ⟨_, _, (List.dropLast_append_getLast nonempty).symm, fun isPoint => ?_⟩
          have isWordChar := areWordChars _ (List.getLast_mem nonempty)
          rw [isPoint] at isWordChar
          exact absurd isWordChar (by decide)
      | quoted =>
          exact ⟨'"' :: escape _, '"', rfl, by decide⟩
  | @cons written _ _ _ _ _ inductionHypothesis =>
      obtain ⟨before, last, rfl, notPoint⟩ := inductionHypothesis
      exact ⟨written ++ '.' :: before, last, by simp, notPoint⟩

/-! ## Access names -/

/-- The code under which a text is refused that is no path. -/
inductive IsRefusedAs (text : List Char) : DiagnosticCode → Prop where
  | badEscape {start : List Char} :
      Expects text start → HasBadEscape start → IsRefusedAs text .invalidEscape
  | unclosed {start : List Char} :
      (∀ other, Expects text other → ¬ HasBadEscape other) →
        Expects text start → IsUnclosed start → IsRefusedAs text .unterminatedString
  | noPath :
      (∀ start, Expects text start → ¬ HasBadEscape start ∧ ¬ IsUnclosed start) →
        IsRefusedAs text .invalidAccessName

/-- A bad escape where a segment is expected fails the path with it. -/
theorem segments_of_badEscape
    {text start : List Char}
    (expects : Expects text start)
    (hasBadEscape : HasBadEscape start) :
    segments text = .error .invalidEscape :=
  segments_eq_error_of_expects expects (segment_eq_invalidEscape_iff.mpr hasBadEscape) nofun

/-- A quote that is not closed fails the path, if no escape before its end does. -/
theorem segments_of_isUnclosed
    {text start : List Char}
    (expects : Expects text start)
    (isUnclosed : IsUnclosed start)
    (hasNoBadEscape : ¬ HasBadEscape start) :
    segments text = .error .unterminatedQuote :=
  segments_eq_error_of_expects expects
    (segment_eq_unterminatedQuote_iff.mpr ⟨isUnclosed, hasNoBadEscape⟩) nofun

/-- A text in which the reading comes to no broken segment is refused as no path. -/
theorem isRefusedAs_invalidAccessName
    {text : List Char}
    (noBadEscape : segments text ≠ .error .invalidEscape)
    (noOpenQuote : segments text ≠ .error .unterminatedQuote) :
    IsRefusedAs text .invalidAccessName := by
  refine .noPath fun start expects => ?_
  have hasNoBadEscape : ¬ HasBadEscape start := fun hasBadEscape =>
    noBadEscape (segments_of_badEscape expects hasBadEscape)
  exact ⟨hasNoBadEscape, fun isUnclosed =>
    noOpenQuote (segments_of_isUnclosed expects isUnclosed hasNoBadEscape)⟩

/-- The code of a failure is that of the first segment that is broken, if there is one. -/
theorem isRefusedAs_of_failure
    {text : List Char}
    {failure : Failure}
    (failed : segments text = .error failure) :
    IsRefusedAs text failure.code := by
  rcases segments_cases text with
    ⟨_, _, _, _, _, reads⟩ | ⟨start, _, expects, failedAt, reads⟩
  · cases reads.symm.trans failed
  · cases reads.symm.trans failed
    cases failure with
    | invalidEscape =>
        exact .badEscape expects (segment_eq_invalidEscape_iff.mp failedAt)
    | unterminatedQuote =>
        refine .unclosed (fun other expectsOther hasBadEscape => ?_) expects
          (segment_eq_unterminatedQuote_iff.mp failedAt).1
        cases (segments_of_badEscape expectsOther hasBadEscape).symm.trans failed
    | missingSegment =>
        exact isRefusedAs_invalidAccessName (by simp [failed]) (by simp [failed])

section

variable {name : String} (nonempty : name ≠ "")

include nonempty

/-- A name is a path exactly if its segments take all of it. -/
theorem toPath_eq_ok_iff
    {path : List String} :
    toPath name = .ok path ↔ segments name.toList = .ok (path, []) := by
  have isText : name.toList.isEmpty = false := by
    simpa using nonempty
  rw [toPath]
  simp only [isText, Bool.false_eq_true, if_false]
  split <;> simp_all

/-- A name of which not all is read as a path is refused for what stops the reading. -/
theorem exists_refusal
    (noPath : ∀ path, segments name.toList ≠ .ok (path, [])) :
    ∃ diagnostic code, toPath name = .error diagnostic ∧ diagnostic.code = some code ∧
      IsRefusedAs name.toList code := by
  have isText : name.toList.isEmpty = false := by
    simpa using nonempty
  rw [toPath]
  simp only [isText, Bool.false_eq_true, if_false]
  cases reads : segments name.toList with
  | error failure =>
      exact ⟨_, failure.code, rfl, rfl, isRefusedAs_of_failure reads⟩
  | ok value =>
      obtain ⟨path, rest⟩ := value
      have isRefused : IsRefusedAs name.toList .invalidAccessName :=
        isRefusedAs_invalidAccessName (by simp [reads]) (by simp [reads])
      cases rest with
      | nil =>
          exact absurd reads (noPath path)
      | cons char rest =>
          exact ⟨_, _, rfl, rfl, isRefused⟩

end

/--
A name that is not empty is read exactly if it is a path, and then its segments are read;
any other is refused with the code of the first segment that is broken, if the reading comes
to one.  What is read at the start of a text is the longest path there, and so ends in no
point that no segment follows.
-/
theorem access_names_follow_grammar :
    (∀ name : String, name ≠ "" →
      (∀ path, toPath name = .ok path ↔ IsPath name.toList path) ∧
      ((∀ path, ¬ IsPath name.toList path) →
        ∃ diagnostic code, toPath name = .error diagnostic ∧ diagnostic.code = some code ∧
          IsRefusedAs name.toList code)) ∧
    ∀ (text rest : List Char) (path : List String), segments text = .ok (path, rest) →
      ∃ written, text = written ++ rest ∧ IsPath written path ∧
        (∀ before, written ≠ before ++ ['.']) ∧
        ∀ longer others, longer <+: text → IsPath longer others →
          longer.length ≤ written.length := by
  have isPath_iff (text : List Char) (path : List String) :
      segments text = .ok (path, []) ↔ IsPath text path := by
    refine ⟨fun reads => ?_, IsPath.segments_eq⟩
    obtain ⟨written, rfl, isPath⟩ := isPath_of_segments reads
    rwa [List.append_nil]
  constructor
  · intro name nonempty
    refine ⟨fun path => (toPath_eq_ok_iff nonempty).trans (isPath_iff _ _), fun noPath => ?_⟩
    exact exists_refusal nonempty fun path reads => noPath path ((isPath_iff _ _).mp reads)
  · intro text rest path reads
    obtain ⟨written, isText, isPath⟩ := isPath_of_segments reads
    refine ⟨written, isText, isPath, ?noPoint, ?longest⟩
    case noPoint =>
      intro before endsInPoint
      obtain ⟨_, last, isLast, notPoint⟩ := isPath.exists_last
      rw [endsInPoint] at isLast
      exact notPoint (List.append_inj' isLast rfl |>.2 |> List.singleton_inj.mp |>.symm)
    case longest =>
      rintro longer others ⟨next, rfl⟩ isLonger
      have isSuffix := (isLonger.suffix_of_segments next).2 path rest reads
      have lengths := congrArg List.length isText
      simp only [List.length_append] at lengths
      have shorter := isSuffix.length_le
      omega

/--
A quoted segment may hold a point and an escaped quote; a letter cannot be escaped; and the
point before an arrow is no part of the path.
-/
theorem exists_names_by_grammar :
    IsPath "né.\"a.\\\"\"".toList ["né", "a.\""] ∧
      (∃ diagnostic, toPath "a.\"b\\n" = .error diagnostic ∧
        diagnostic.code = some .invalidEscape ∧
          IsRefusedAs "a.\"b\\n".toList .invalidEscape) ∧
        ∃ written, "x.->y".toList = written ++ ".->y".toList ∧ IsPath written ["x"] ∧
          (∀ before, written ≠ before ++ ['.']) ∧
            ∀ longer others, longer <+: "x.->y".toList → IsPath longer others →
              longer.length ≤ written.length := by
  refine ⟨?accepted, ?refused, ?stopped⟩
  case accepted =>
    have reads : toPath "né.\"a.\\\"\"" = .ok ["né", "a.\""] := by
      decide +kernel
    exact ((access_names_follow_grammar.1 _ (by decide)).1 _).mp reads
  case refused =>
    have hasCode :
        (match toPath "a.\"b\\n" with
          | .ok _ => none
          | .error diagnostic => diagnostic.code) = some .invalidEscape := by
      decide +kernel
    obtain ⟨reads, refuses⟩ := access_names_follow_grammar.1 "a.\"b\\n" (by decide)
    obtain ⟨diagnostic, code, failed, isCode, isRefused⟩ := refuses fun path isPath => by
      rw [(reads path).mpr isPath] at hasCode
      cases hasCode
    rw [failed] at hasCode
    cases isCode.symm.trans hasCode
    exact ⟨diagnostic, failed, hasCode, isRefused⟩
  case stopped =>
    have reads : segments "x.->y".toList = .ok (["x"], ".->y".toList) := by
      decide +kernel
    exact access_names_follow_grammar.2 _ _ _ reads

end BoxDiagram.AccessName
