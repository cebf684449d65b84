import BoxDiagram.Outline.Reader
import BoxDiagram.Proofs.Attempt
import BoxDiagram.Proofs.Outline.Constructs
import BoxDiagram.Proofs.Text.Char

namespace BoxDiagram

open Attempt (bind_eq_ok_iff)

/-!
# Spelling of arrows

The heads of an arrow are seen on its whole run of characters, while its kind is what
remains without any of the angles at its ends.  So all arrows that are read have a kind
without outer angles, and an arrow with such a kind, written with one angle for each of
its heads, is read back.
-/

namespace Outline

/-- A kind consists of arrow characters, and no angle at its ends is one of a head. -/
structure Arrow.HasPlainKind (arrow : Arrow) : Prop where
  nonempty : arrow.kind.toList ≠ []
  arrowChars : ∀ char ∈ arrow.kind.toList, isArrowChar char = true
  head_ne : arrow.kind.toList.head? ≠ some '<'
  last_ne : arrow.kind.toList.getLast? ≠ some '>'

/-- A run of characters is the kind of an arrow between the angles of its heads. -/
def Arrow.IsSpelled (arrow : Arrow) (run : List Char) : Prop :=
  ∃ left right,
    (run = List.replicate left '<' ++ arrow.kind.toList ++ List.replicate right '>' ∨
      arrow.kind = "-" ∧ run = List.replicate left '<' ++ List.replicate right '>') ∧
      (arrow.startHead = true ↔ 0 < left) ∧ (arrow.endHead = true ↔ 0 < right)

/-- An arrow stands between two places, with all arrow characters that follow each other. -/
structure Arrow.StandsBetween
    (arrow : Arrow)
    (start : Cursor)
    (run : List Char)
    (after : Cursor) : Prop where
  passes :
    start.Passes
      (Arrow.write.edge arrow.sourceEdge ++ run ++ Arrow.write.edge arrow.targetEdge) after
  nonempty : run ≠ []
  arrowChars : ∀ char ∈ run, isArrowChar char = true
  /-- The run ends where no arrow character follows. -/
  whole :
    ∀ char, (Arrow.write.edge arrow.targetEdge ++ after.rest).head? = some char →
      isArrowChar char = false
  isSpelled : arrow.IsSpelled run

section Body

variable {left right : Nat} {bare : List Char}

/-- Nothing is dropped from a text that does not start with the character. -/
theorem dropWhile_beq_eq_self
    {char : Char}
    {text : List Char}
    (head_ne : text.head? ≠ some char) :
    text.dropWhile (· == char) = text := by
  cases text with
  | nil =>
      rfl
  | cons first rest =>
      have differs : first ≠ char := by simpa using head_ne
      simp [differs]

/-- Angles around a text without outer ones are cut off. -/
theorem arrowKind_eq
    (head_ne : bare.head? ≠ some '<')
    (last_ne : bare.getLast? ≠ some '>') :
    arrowKind (List.replicate left '<' ++ bare ++ List.replicate right '>') =
      if bare.isEmpty then ['-'] else bare := by
  have afterLeft :
      (List.replicate left '<' ++ bare ++ List.replicate right '>').dropWhile (· == '<') =
        bare ++ List.replicate right '>' := by
    rw [List.append_assoc, List.dropWhile_append_of_pos (by simp)]
    apply dropWhile_beq_eq_self
    cases bare with
    | nil => simp [List.head?_replicate]
    | cons => simpa using head_ne
  have beforeRight :
      (bare ++ List.replicate right '>').reverse.dropWhile (· == '>') = bare.reverse := by
    rw [List.reverse_append, List.reverse_replicate, List.dropWhile_append_of_pos (by simp)]
    apply dropWhile_beq_eq_self
    rwa [List.head?_reverse]
  rw [arrowKind, afterLeft, beforeRight, List.reverse_reverse]

/-- An arrow has the heads whose angles stand around its kind. -/
theorem Arrow.ofBody_eq
    (head_ne : bare.head? ≠ some '<')
    (last_ne : bare.getLast? ≠ some '>')
    (sourceEdge targetEdge : Option Direction) :
    Arrow.ofBody (List.replicate left '<' ++ bare ++ List.replicate right '>')
        sourceEdge targetEdge =
      { kind := String.ofList (if bare.isEmpty then ['-'] else bare)
        startHead := decide (0 < left)
        endHead := decide (0 < right)
        sourceEdge := sourceEdge
        targetEdge := targetEdge } := by
  have startHead :
      (List.replicate left '<' ++ bare ++ List.replicate right '>').head? = some '<' ↔
        0 < left := by
    cases left <;> cases bare <;> simp_all [List.head?_replicate, List.replicate_succ]
  have endHead :
      (List.replicate left '<' ++ bare ++ List.replicate right '>').getLast? = some '>' ↔
        0 < right := by
    rcases right.eq_zero_or_pos with rfl | some_right
    · cases isLast : bare.getLast? <;>
        simp_all [List.getLast?_append, List.getLast?_replicate]
    · simp [List.getLast?_append, List.getLast?_replicate, some_right, some_right.ne']
  rw [Arrow.ofBody, arrowKind_eq head_ne last_ne]
  congr 1
  · rw [Bool.eq_iff_iff, beq_iff_eq, decide_eq_true_iff, startHead]
  · rw [Bool.eq_iff_iff, beq_iff_eq, decide_eq_true_iff, endHead]

/-- Every text is one without outer angles between angles. -/
theorem exists_angles
    (body : List Char) :
    ∃ left bare right,
      body = List.replicate left '<' ++ bare ++ List.replicate right '>' ∧
        bare.head? ≠ some '<' ∧ bare.getLast? ≠ some '>' := by
  have angles {char : Char} (text : List Char) :
      text.takeWhile (· == char) =
        List.replicate (text.takeWhile (· == char)).length char :=
    List.eq_replicate_of_mem fun _ member =>
      beq_iff_eq.mp (List.mem_takeWhile_imp (p := (· == char)) member)
  have head_ne (char : Char) (text : List Char) :
      (text.dropWhile (· == char)).head? ≠ some char := by
    intro isHead
    have := List.head?_dropWhile_not (· == char) text
    simp [isHead] at this
  let inner := body.dropWhile (· == '<')
  let bare := (inner.reverse.dropWhile (· == '>')).reverse
  have splits : inner = bare ++ List.replicate (inner.reverse.takeWhile (· == '>')).length '>' := by
    rw [← List.reverse_replicate, ← angles, ← List.reverse_append,
      List.takeWhile_append_dropWhile, List.reverse_reverse]
  refine ⟨(body.takeWhile (· == '<')).length, bare,
    (inner.reverse.takeWhile (· == '>')).length, ?_, ?_, ?_⟩
  · rw [List.append_assoc, ← splits, ← angles]
    exact List.takeWhile_append_dropWhile.symm
  · intro isHead
    apply head_ne '<' body
    change inner.head? = _
    rw [splits, List.head?_append, isHead]
    rfl
  · rw [List.getLast?_reverse]
    exact head_ne '>' _

end Body

/-- The arrow made of a run of arrow characters has a plain kind, and the run spells it. -/
theorem Arrow.isSpelled_ofBody
    {body : List Char}
    (nonempty : body ≠ [])
    (arrowChars : ∀ char ∈ body, isArrowChar char = true)
    (sourceEdge targetEdge : Option Direction) :
    (Arrow.ofBody body sourceEdge targetEdge).HasPlainKind ∧
      (Arrow.ofBody body sourceEdge targetEdge).IsSpelled body := by
  obtain ⟨left, bare, right, rfl, head_ne, last_ne⟩ := exists_angles body
  rw [Arrow.ofBody_eq head_ne last_ne]
  cases bare with
  | nil =>
      refine ⟨⟨by simp, ?_, by simp, by simp⟩, left, right, .inr ⟨rfl, by simp⟩, by simp, by simp⟩
      simp [isArrowChar]
  | cons first rest =>
      refine ⟨⟨by simp, ?_, by simpa using head_ne, by simpa using last_ne⟩, left, right,
        .inl (by simp), by simp, by simp⟩
      intro char member
      have isBare : char ∈ first :: rest := by simpa using member
      exact arrowChars char (List.mem_append_left _ (List.mem_append_right _ isBare))

/-- No character of an arrow is a digit, so an edge ends where the run starts. -/
theorem isDigit_eq_false_of_isArrowChar
    {char : Char}
    (isArrow : isArrowChar char = true) :
    char.isDigit = false := by
  simp only [isArrowChar, List.contains_eq_mem, decide_eq_true_eq, List.mem_cons,
    List.not_mem_nil, or_false] at isArrow
  rcases isArrow with rfl | rfl | rfl | rfl | rfl | rfl <;> decide

/-- No blank is a character of an arrow. -/
theorem isArrowChar_eq_false_of_isBlank
    {char : Char}
    (blank : Text.isBlank char = true) :
    isArrowChar char = false := by
  by_contra isArrow
  simp only [isArrowChar, List.contains_eq_mem, decide_eq_true_eq, List.mem_cons,
    List.not_mem_nil, or_false, Bool.not_eq_false] at isArrow
  rcases isArrow with rfl | rfl | rfl | rfl | rfl | rfl <;> exact absurd blank (by decide)

/-- The digit of a side is the only one that is read as this side. -/
theorem eq_digitChar_of_ofIndex?
    {digit : Char}
    {direction : Direction}
    (isDigit : digit.isDigit = true)
    (isIndex : Direction.ofIndex? (digit.toNat - '0'.toNat) = some direction) :
    digit = Nat.digitChar direction.index := by
  have index_eq : direction.index = digit.toNat - '0'.toNat := by
    generalize digit.toNat - '0'.toNat = index at isIndex
    match index, isIndex with
    | 0, rfl => rfl
    | 1, rfl => rfl
    | 2, rfl => rfl
    | 3, rfl => rfl
  have toNat_eq : (Nat.digitChar direction.index).toNat = '0'.toNat + direction.index := by
    cases direction <;> rfl
  have isAbove : '0'.toNat ≤ digit.toNat := by
    simp only [Char.isDigit, Bool.and_eq_true, decide_eq_true_eq, ge_iff_le,
      UInt32.le_iff_toNat_le] at isDigit
    exact isDigit.1
  rw [← Char.toNat_inj, toNat_eq, index_eq]
  omega

/-- The digit of a side is read, and no other character is. -/
theorem passes_of_readEdge?
    {start cursor after : Cursor}
    {present : Bool}
    {side : Option Direction}
    (isAhead : present = true → digitAhead cursor = true)
    (succeeded : readEdge? start cursor present = .ok (side, after)) :
    side.isSome = present ∧ cursor.Passes (Arrow.write.edge side) after := by
  have isAfter := after_of_readEdge? succeeded
  cases present with
  | false =>
      cases succeeded
      exact ⟨rfl, .refl cursor⟩
  | true =>
      rw [if_pos rfl] at isAfter
      obtain ⟨digit, stands, isDigit⟩ := (Option.any_eq_true _ _).mp (isAhead rfl)
      rw [readEdge?, if_pos rfl, readEdge, stands, Option.bind_some] at succeeded
      split at succeeded
      · rename_i direction isIndex
        cases succeeded
        refine ⟨rfl, ?_⟩
        rw [Arrow.write.edge, ← eq_digitChar_of_ofIndex? isDigit isIndex]
        exact Cursor.passes_advance_one stands
      · cases succeeded

/-- What is read as an arrow is its whole run of arrow characters and the digits of its sides. -/
theorem exists_standsBetween
    {arrow : Arrow}
    {start after : Cursor}
    (succeeded : readArrow start = .ok (arrow, after)) :
    arrow.HasPlainKind ∧ ∃ run, arrow.StandsBetween start run after := by
  rw [readArrow] at succeeded
  obtain ⟨⟨sourceEdge, beforeBody⟩, isSource, succeeded⟩ := bind_eq_ok_iff.mp succeeded
  dsimp only at succeeded
  split at succeeded
  · cases succeeded
  · rename_i someBody
    obtain ⟨⟨targetEdge, last⟩, isTarget, succeeded⟩ := bind_eq_ok_iff.mp succeeded
    cases succeeded
    have isDigitAhead {cursor : Cursor} (isEdge : edgeAhead cursor = true) :
        digitAhead cursor = true :=
      (Bool.and_eq_true_iff.mp isEdge).1
    obtain ⟨_, toBody⟩ := passes_of_readEdge? id isSource
    obtain ⟨_, toEnd⟩ := passes_of_readEdge? isDigitAhead isTarget
    have overBody := beforeBody.passes_takeWhile isArrowChar
    have nonempty : (beforeBody.takeWhile isArrowChar).1 ≠ [] := by
      simpa using someBody
    have arrowChars : ∀ char ∈ (beforeBody.takeWhile isArrowChar).1, isArrowChar char = true :=
      fun _ member => List.mem_takeWhile_imp member
    obtain ⟨hasPlainKind, isSpelled⟩ :=
      Arrow.isSpelled_ofBody nonempty arrowChars sourceEdge targetEdge
    refine ⟨hasPlainKind, _, (toBody.trans overBody).trans toEnd, nonempty, arrowChars, ?_,
      isSpelled⟩
    intro char follows
    have isNext : (beforeBody.takeWhile isArrowChar).2.peek? = some char := by
      rw [Cursor.peek?, toEnd.rest_eq]
      exact follows
    exact Cursor.eq_false_of_peek?_takeWhile isNext

/-- An edge is written as nothing, or as the digit of its direction. -/
theorem edge_eq_nil_or_singleton
    (side : Option Direction) :
    side = none ∧ Arrow.write.edge side = [] ∨
      ∃ digit direction, side = some direction ∧ Arrow.write.edge side = [digit] ∧
        digit.isDigit = true ∧ Direction.ofIndex? (digit.toNat - '0'.toNat) = some direction := by
  cases side with
  | none =>
      exact .inl ⟨rfl, rfl⟩
  | some direction =>
      exact .inr ⟨_, direction, rfl, rfl, by cases direction <;> exact ⟨by decide, rfl⟩⟩

/-- A side that is written is read back. -/
theorem readEdge?_eq
    {start cursor : Cursor}
    {side : Option Direction}
    {rest : List Char}
    (stands : cursor.rest = Arrow.write.edge side ++ rest) :
    readEdge? start cursor side.isSome =
      .ok (side, cursor.advance (Arrow.write.edge side).length) := by
  rcases edge_eq_nil_or_singleton side with
    ⟨rfl, _⟩ | ⟨digit, direction, rfl, isEdge, _, isIndex⟩
  · rfl
  · have isFirst : cursor.peek? = some digit := by
      rw [Cursor.peek?, stands, isEdge]
      rfl
    rw [isEdge, readEdge?, Option.isSome_some, if_pos rfl, readEdge, isFirst, Option.bind_some]
    dsimp only
    rw [isIndex]
    rfl

/-- A digit is ahead exactly if a side is written there before something else. -/
theorem digitAhead_eq
    {cursor : Cursor}
    {side : Option Direction}
    {first : Char}
    {rest : List Char}
    (stands : cursor.rest = Arrow.write.edge side ++ first :: rest)
    (noDigit : first.isDigit = false) :
    digitAhead cursor = side.isSome := by
  rcases edge_eq_nil_or_singleton side with
    ⟨rfl, isEdge⟩ | ⟨digit, direction, rfl, isEdge, isDigit, _⟩
  · simp [digitAhead, Cursor.peek?, stands, isEdge, noDigit]
  · simp [digitAhead, Cursor.peek?, stands, isEdge, isDigit]

/-- A side that is written before a blank ends an arrow. -/
theorem edgeAhead_eq
    {cursor : Cursor}
    {side : Option Direction}
    {blank : Char}
    {rest : List Char}
    (stands : cursor.rest = Arrow.write.edge side ++ blank :: rest)
    (isBlank : Text.isBlank blank = true) :
    edgeAhead cursor = side.isSome := by
  rw [edgeAhead, digitAhead_eq stands (Text.isDigit_eq_false_of_isBlank isBlank)]
  rcases edge_eq_nil_or_singleton side with ⟨rfl, _⟩ | ⟨digit, direction, rfl, isEdge, _⟩
  · rfl
  · simp [Cursor.second?, stands, isEdge, Text.isWordChar_eq_false_of_isBlank isBlank]

/-- The run of characters of an arrow, with one angle for each of its heads. -/
def Arrow.run (arrow : Arrow) : List Char :=
  List.replicate arrow.startHead.toNat '<' ++ arrow.kind.toList ++
    List.replicate arrow.endHead.toNat '>'

/-- An arrow is written as its run between its edges. -/
theorem Arrow.write_eq
    (arrow : Arrow) :
    arrow.write = write.edge arrow.sourceEdge ++ (arrow.run ++ write.edge arrow.targetEdge) := by
  cases startHead : arrow.startHead <;> cases endHead : arrow.endHead <;>
    simp [Arrow.write, Arrow.run, startHead, endHead]

namespace Arrow.HasPlainKind

variable {arrow : Arrow} (hasPlainKind : arrow.HasPlainKind)
include hasPlainKind

/-- A run has no other characters than those of arrows. -/
theorem isArrowChar_of_mem_run
    {char : Char}
    (member : char ∈ arrow.run) :
    isArrowChar char = true := by
  rcases List.mem_append.mp member with inLeftOrKind | inRight
  · rcases List.mem_append.mp inLeftOrKind with inLeft | inKind
    · rw [List.eq_of_mem_replicate inLeft]
      rfl
    · exact hasPlainKind.arrowChars char inKind
  · rw [List.eq_of_mem_replicate inRight]
    rfl

/-- The run of an arrow is not empty. -/
theorem exists_run_eq_cons :
    ∃ first rest, arrow.run = first :: rest ∧ isArrowChar first = true := by
  have nonempty : arrow.run ≠ [] := by
    simp [Arrow.run, hasPlainKind.nonempty]
  obtain ⟨first, rest, isRun⟩ := List.exists_cons_of_ne_nil nonempty
  exact ⟨first, rest, isRun, hasPlainKind.isArrowChar_of_mem_run (isRun ▸ List.mem_cons_self)⟩

/-- The run of an arrow with a plain kind is the run of no other one between the same sides. -/
theorem ofBody_run :
    Arrow.ofBody arrow.run arrow.sourceEdge arrow.targetEdge = arrow := by
  rw [Arrow.run, Arrow.ofBody_eq hasPlainKind.head_ne hasPlainKind.last_ne,
    if_neg (by simp [hasPlainKind.nonempty]), String.ofList_toList]
  obtain ⟨kind, startHead, endHead, sourceEdge, targetEdge⟩ := arrow
  cases startHead <;> cases endHead <;> rfl

/-- An arrow with a plain kind that is written before a blank is read back. -/
theorem readArrow_eq
    {start : Cursor}
    {blank : Char}
    {rest : List Char}
    (isBlank : Text.isBlank blank = true)
    (stands : start.rest = arrow.write ++ blank :: rest) :
    readArrow start = .ok (arrow, start.advance arrow.write.length) := by
  obtain ⟨first, later, isRun, isArrow⟩ := hasPlainKind.exists_run_eq_cons
  have fromStart :
      start.rest =
        Arrow.write.edge arrow.sourceEdge ++
          (arrow.run ++ (Arrow.write.edge arrow.targetEdge ++ blank :: rest)) := by
    rw [stands, Arrow.write_eq, List.append_assoc, List.append_assoc]
  have fromBody := Cursor.rest_advance_length fromStart
  have fromEnd := Cursor.rest_advance_length fromBody
  have sourceAhead : digitAhead start = arrow.sourceEdge.isSome := by
    rw [isRun] at fromStart
    exact digitAhead_eq fromStart (isDigit_eq_false_of_isArrowChar isArrow)
  have stops :
      ∀ char, (Arrow.write.edge arrow.targetEdge ++ blank :: rest).head? = some char →
        isArrowChar char = false := by
    intro char isHead
    rcases edge_eq_nil_or_singleton arrow.targetEdge with
      ⟨_, isEdge⟩ | ⟨digit, _, _, isEdge, isDigit, _⟩
    · obtain rfl : blank = char := by simpa [isEdge] using isHead
      exact isArrowChar_eq_false_of_isBlank isBlank
    · obtain rfl : digit = char := by simpa [isEdge] using isHead
      by_contra isArrow
      simp [isDigit_eq_false_of_isArrowChar (eq_true_of_ne_false isArrow)] at isDigit
  have nonempty : arrow.run.isEmpty = false := by
    rw [isRun]
    rfl
  rw [readArrow, sourceAhead, readEdge?_eq fromStart]
  dsimp only [Attempt.ok_bind]
  rw [Cursor.takeWhile_eq fromBody (fun _ => hasPlainKind.isArrowChar_of_mem_run) stops]
  dsimp only
  rw [nonempty, edgeAhead_eq fromEnd isBlank, readEdge?_eq fromEnd, Arrow.write_eq,
    List.length_append, List.length_append, Cursor.advance_add, Cursor.advance_add]
  exact congrArg (fun read => Except.ok (read, _)) hasPlainKind.ofBody_run

end Arrow.HasPlainKind

/--
What is read as an arrow has a kind of arrow characters without an angle of a head at either
end, and takes up its whole run of arrow characters, which is this kind between angles for the
heads.  Any arrow with such a kind, between any two of the sides or none, is read back from the
text that it is written as before a blank, and exactly this text is passed over.
-/
theorem readArrow_round_trip :
    (∀ start arrow after, readArrow start = .ok (arrow, after) →
      arrow.HasPlainKind ∧ ∃ run, arrow.StandsBetween start run after) ∧
    ∀ arrow : Arrow, arrow.HasPlainKind →
      ∀ (start : Cursor) (blank : Char) (rest : List Char), Text.isBlank blank = true →
        start.rest = arrow.write ++ blank :: rest →
          ∃ after, readArrow start = .ok (arrow, after) ∧ start.Passes arrow.write after ∧
            after.rest = blank :: rest := by
  constructor
  · intro start arrow after succeeded
    exact exists_standsBetween succeeded
  · intro arrow hasPlainKind start blank rest isBlank stands
    exact ⟨_, hasPlainKind.readArrow_eq isBlank stands,
      Cursor.passes_advance_length ⟨_, stands.symm⟩, Cursor.rest_advance_length stands⟩

/-- Of two angles in a row one makes the head, and is left when the arrow is written again. -/
theorem exists_readArrow_round_trip :
    ∃ arrow after run next,
      readArrow (.start "1<<>-><2(a)".toList) = .ok (arrow, after) ∧
        arrow = ⟨">-><", true, false, some .cross, some .mainReverse⟩ ∧
          arrow.StandsBetween (.start "1<<>-><2(a)".toList) run after ∧
            arrow.write = "1<>-><2".toList ∧
              readArrow (.start (arrow.write ++ " (a)".toList)) = .ok (arrow, next) ∧
                next.rest = " (a)".toList := by
  have read :
      (readArrow (.start "1<<>-><2(a)".toList)).toOption.map (·.1) =
        some ⟨">-><", true, false, some .cross, some .mainReverse⟩ := by
    decide +kernel
  obtain ⟨⟨arrow, after⟩, isRead, isArrow⟩ := Option.map_eq_some_iff.mp read
  have isRead := Attempt.toOption_eq_some_iff.mp isRead
  obtain ⟨hasPlainKind, run, stands⟩ := readArrow_round_trip.1 _ _ _ isRead
  obtain ⟨next, readBack, _, isRest⟩ :=
    readArrow_round_trip.2 arrow hasPlainKind (.start (arrow.write ++ " (a)".toList)) ' '
      "(a)".toList (by decide) rfl
  refine ⟨arrow, after, run, next, isRead, isArrow, stands, ?_, readBack, isRest⟩
  rw [show arrow = _ from isArrow]
  decide +kernel

end Outline

end BoxDiagram
