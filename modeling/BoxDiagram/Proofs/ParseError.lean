import BoxDiagram.Compiler.Basic
import BoxDiagram.Diagnostic.Report
import BoxDiagram.Proofs.Graph.Addresses
import BoxDiagram.Proofs.Outline.Places

namespace BoxDiagram

open Attempt (FailsOnly reason? reason?_eq_some_iff)
open Text (IsBoundary normalizeNewlines)

/-!
# Errors of texts that are no diagrams

Reading a text and resolving its outline fail with one message, which marks whole
characters of the text with uniform line ends and can always be shown with that text.
Its position is the start of the mistake, but for a side that ends an arrow and for the
path of a header whose kind does not fit.
-/

variable {α : Type} [Scalar α]

namespace Diagram

/-- Every error of a text points into the text with uniform line ends. -/
theorem parse_failsOnly
    (source : String) :
    FailsOnly (Diagnostic.IsPlacedIn (normalizeNewlines source.toList))
      (parse source : Except Diagnostic (Diagram α)) := by
  have reads := Outline.ofNormalized_ends (normalizeNewlines source.toList)
  refine .bind reads.failsOnly fun outline succeeded => ?_
  have written := reads.of_ok succeeded
  refine (ofOutline_failsOnly_about written.isKnown).imp fun diagnostic isFair => ?_
  exact isFair.toIsAbout.isPlacedIn (isFair.code_ne (by simp [DiagnosticCode.resolving]))

/--
An error of a text has a position and a span of the mistake.  The position is the line and
the column at which the span starts, unless the mistake is the last digit of an arrow or the
path of a header that tells of another kind than before: then it is the line and the column
of the start of that arrow, or of the bracket that opens that header, and the span starts later.
-/
theorem position_of_parse_error
    {source : String}
    {diagnostic : Diagnostic}
    (failed : (parse source : Except Diagnostic (Diagram α)) = .error diagnostic) :
    ∃ span position,
      diagnostic.primarySpan? = some span ∧ diagnostic.position = some position ∧
        ((position.IsAt (normalizeNewlines source.toList) span.start ∧
            diagnostic.code ≠ some .conflictingKind) ∨
          (¬ position.IsAt (normalizeNewlines source.toList) span.start ∧
            ((∃ arrow, diagnostic.PointsAtArrow (normalizeNewlines source.toList) span position
                arrow) ∨
              ∃ opening, diagnostic.PointsAtHeader (normalizeNewlines source.toList) span
                position opening))) := by
  have placed := (parse_failsOnly source).of_eq failed
  obtain ⟨span, isSpan⟩ := Option.isSome_iff_exists.mp placed.primarySpan
  obtain ⟨position, isPosition⟩ := Option.isSome_iff_exists.mp placed.position
  refine ⟨span, position, isSpan, isPosition, ?_⟩
  cases placed.points span position isSpan isPosition with
  | mistake isAt code_ne =>
      exact .inl ⟨isAt, code_ne⟩
  | arrow arrow points =>
      exact .inr ⟨points.not_isAt, .inl ⟨arrow, points⟩⟩
  | header opening points =>
      exact .inr ⟨points.not_isAt, .inr ⟨opening, points⟩⟩

/-- A side after an arrow is reported at the arrow, where its digit does not stand. -/
theorem exists_position_of_parse_error :
    ∃ diagnostic,
      (parse "(a) ->9 (b)" : Except Diagnostic (Diagram Rat)) = .error diagnostic ∧
        diagnostic.primarySpan? = some (.between 6 7) ∧ diagnostic.position = some ⟨1, 5⟩ ∧
          ¬ (Position.mk 1 5).IsAt "(a) ->9 (b)".toList 6 ∧
            ∃ arrow,
              diagnostic.PointsAtArrow "(a) ->9 (b)".toList (.between 6 7) ⟨1, 5⟩ arrow := by
  have fails :
      (reason? (parse "(a) ->9 (b)" : Except Diagnostic (Diagram Rat))).map (fun diagnostic =>
          (diagnostic.code, diagnostic.primarySpan?, diagnostic.position)) =
        some (some .invalidArrow, some (.between 6 7), some ⟨1, 5⟩) := by
    decide +kernel
  obtain ⟨diagnostic, failed, facts⟩ := Option.map_eq_some_iff.mp fails
  obtain ⟨isCode, facts⟩ := Prod.mk.inj facts
  obtain ⟨isSpan, isPosition⟩ := Prod.mk.inj facts
  have failed := reason?_eq_some_iff.mp failed
  have notAt : ¬ (Position.mk 1 5).IsAt "(a) ->9 (b)".toList 6 := by
    have isAt : (Position.mk 1 5).IsAt "(a) ->9 (b)".toList 4 :=
      ⟨"(a) ".toList, "->9 (b)".toList, by decide, by decide, by decide⟩
    intro isAtDigit
    cases isAt.offset_eq isAtDigit
  refine ⟨diagnostic, failed, isSpan, isPosition, notAt, ?_⟩
  have uniform : normalizeNewlines "(a) ->9 (b)".toList = "(a) ->9 (b)".toList := by
    decide
  obtain ⟨span, position, isOwnSpan, isOwnPosition, points⟩ := position_of_parse_error failed
  cases isSpan.symm.trans isOwnSpan
  cases isPosition.symm.trans isOwnPosition
  rw [uniform] at points
  rcases points with ⟨isAt, _⟩ | ⟨_, isArrow | ⟨opening, points⟩⟩
  · exact absurd isAt notAt
  · exact isArrow
  · cases isCode.symm.trans points.code

end Diagram

/--
A message can be shown with a text: it has a code, a position and a mark on the mistake, and
each of its marks is a range of whole characters of the text.
-/
structure Diagnostic.IsShownWith (text : List Char) (diagnostic : Diagnostic) : Prop where
  code : diagnostic.code.isSome
  position : diagnostic.position.isSome
  primary : ∃ label ∈ diagnostic.labels, label.isPrimary = true
  ordered : ∀ label ∈ diagnostic.labels, label.span.start ≤ label.span.stop
  inside : ∀ label ∈ diagnostic.labels, label.span.stop ≤ Text.byteLength text
  boundaries :
    ∀ label ∈ diagnostic.labels,
      IsBoundary text label.span.start ∧ IsBoundary text label.span.stop

/-- A diagnostic that is placed in a text is shown with its code, position and labels. -/
theorem Diagnostic.IsPlacedIn.isShownWith
    {text : List Char}
    {diagnostic : Diagnostic}
    (placed : diagnostic.IsPlacedIn text) :
    diagnostic.IsShownWith text where
  code := placed.code
  position := placed.position
  primary := by
    obtain ⟨span, isSpan⟩ := Option.isSome_iff_exists.mp placed.primarySpan
    obtain ⟨label, found, _⟩ := Option.map_eq_some_iff.mp isSpan
    exact ⟨label, List.mem_of_find?_eq_some found, List.find?_some found⟩
  ordered label _ := label.span.start_le_stop
  inside label member := (Span.exists_covers_iff.mp (placed.labels label member)).2.le
  boundaries label member := Span.exists_covers_iff.mp (placed.labels label member)

/-- A message with marks is reported with exactly these marks. -/
theorem Diagnostic.IsShownWith.labelsFor_eq
    {text : List Char}
    {diagnostic : Diagnostic}
    (shown : diagnostic.IsShownWith text)
    (kept : String) :
    Report.labelsFor kept diagnostic = some diagnostic.labels := by
  obtain ⟨label, member, _⟩ := shown.primary
  rw [Report.labelsFor, if_neg]
  intro isEmpty
  simp [List.isEmpty_iff.mp isEmpty] at member

/-- A text is read as the same text with uniform line ends is. -/
theorem Outline.read_normalizeNewlines
    (source : String) :
    Outline.read (String.ofList (normalizeNewlines source.toList)) = Outline.read source := by
  rw [Outline.read, String.toList_ofList,
    Text.normalizeNewlines_of_notMem (Text.return_notMem_normalizeNewlines _)]
  rfl

/-- The error about a text that was refused, and the text that was kept. -/
def Failure.refusal? : Failure → Option (ParseError × String)
  | .parse error kept => some (error, kept)
  | _ => none

namespace Compiler

variable {source : String} {diagnostic : Diagnostic} {compiler : Compiler α}

/-- Without hooks before resolving, a compiler fails on a text with the message of that text. -/
theorem parse_eq_error
    (reads : compiler.hooks.read = {})
    (resolves : compiler.hooks.resolve.before = id)
    (failed : (Diagram.parse source : Except Diagnostic (Diagram α)) = .error diagnostic) :
    compiler.parse source =
      .error (.parse (.ofDiagnostic diagnostic)
        (String.ofList (normalizeNewlines source.toList))) := by
  rw [Compiler.parse, reads]
  dsimp only [id]
  rw [Outline.read_normalizeNewlines]
  rw [Diagram.parse] at failed
  cases isRead : Outline.read source with
  | error first =>
      rw [isRead] at failed
      cases failed
      rfl
  | ok outline =>
      rw [isRead] at failed
      have isReason : Diagram.ofOutline outline = .error diagnostic := failed
      change (compiler.hooks.resolve.tryRun Diagram.ofOutline outline).mapError _ = _
      rw [StageHooks.tryRun, resolves, id, isReason]
      rfl

/--
If a text is no diagram, its only message has a code, a position and a mark on the mistake,
and marks only ranges of whole characters of the text with uniform line ends.  A compiler
keeps this message and that text, and the one report of the failure has the same marks, each
of which ends inside the text.
-/
theorem report_of_parse_error
    (failed : (Diagram.parse source : Except Diagnostic (Diagram α)) = .error diagnostic) :
    diagnostic.IsShownWith (normalizeNewlines source.toList) ∧
      ∀ compiler : Compiler α, compiler.hooks.read = {} → compiler.hooks.resolve.before = id →
        ∃ error kept report,
          compiler.parse source = .error (.parse error kept) ∧
            error.diagnostics = [diagnostic] ∧
            kept = String.ofList (normalizeNewlines source.toList) ∧
            Report.list (.parse error kept) = [report] ∧
            report.labels = some diagnostic.labels ∧
            ∀ label ∈ diagnostic.labels,
              label.span.start + label.span.length ≤ kept.utf8ByteSize := by
  have shown := ((Diagram.parse_failsOnly source).of_eq failed).isShownWith
  refine ⟨shown, fun compiler reads resolves => ?_⟩
  refine ⟨_, _, _, parse_eq_error reads resolves failed, rfl, rfl, rfl,
    shown.labelsFor_eq _, fun label member => ?_⟩
  have isStop : label.span.start + label.span.length = label.span.stop :=
    Nat.add_sub_cancel' label.span.start_le_stop
  rw [isStop, Text.utf8ByteSize_ofList]
  exact shown.inside label member

/-- The path of a header after a line end of two bytes, with a name of two bytes. -/
theorem exists_report_of_parse_error :
    ∃ diagnostic error report,
      (Diagram.parse "(é)\r\n(é.b)" : Except Diagnostic (Diagram Rat)) = .error diagnostic ∧
        diagnostic.labels.map (fun label => (label.span.start, label.span.stop)) =
          [(6, 10), (0, 4)] ∧
        ({} : Compiler Rat).parse "(é)\r\n(é.b)" = .error (.parse error "(é)\n(é.b)") ∧
          error.diagnostics = [diagnostic] ∧
            Report.list (.parse error "(é)\n(é.b)") = [report] ∧
              report.labels = some diagnostic.labels := by
  have fails :
      (reason? (Diagram.parse "(é)\r\n(é.b)" : Except Diagnostic (Diagram Rat))).map
          (fun diagnostic =>
            diagnostic.labels.map (fun label => (label.span.start, label.span.stop))) =
        some [(6, 10), (0, 4)] := by
    decide +kernel
  obtain ⟨diagnostic, failed, marks⟩ := Option.map_eq_some_iff.mp fails
  have failed := reason?_eq_some_iff.mp failed
  obtain ⟨_, reports⟩ := report_of_parse_error failed
  obtain ⟨error, kept, report, isError, isOnly, isKept, isReport, labels, _⟩ :=
    reports {} rfl rfl
  have uniform :
      String.ofList (normalizeNewlines "(é)\r\n(é.b)".toList) = "(é)\n(é.b)" := by
    decide +kernel
  rw [uniform] at isKept
  subst isKept
  exact ⟨diagnostic, error, report, failed, marks, isError, isOnly, isReport, labels⟩

/-- With a hook before reading alone, a text is parsed as the text that the hook makes of it. -/
theorem parse_eq_mapError
    {text : String}
    (rewrites :
      compiler.hooks.read.before (String.ofList (normalizeNewlines source.toList)) = text)
    (keepsOutlines : compiler.hooks.read.after = id)
    (resolves : compiler.hooks.resolve = {}) :
    compiler.parse source =
      (Diagram.parse text).mapError fun diagnostic => .parse (.ofDiagnostic diagnostic) text := by
  rw [Compiler.parse, rewrites, keepsOutlines, resolves, Diagram.parse]
  cases Outline.read text with
  | error first =>
      rfl
  | ok outline =>
      change ((StageHooks.tryRun {} Diagram.ofOutline outline).mapError _ : Except _ _) = _
      rw [StageHooks.tryRun_default]
      rfl

/--
A compiler that has a hook before reading alone fails on a text only with a message about it,
and keeps the text that the hook makes of it.  The message can be shown with this text once
its line ends are uniform.  They are so from the start exactly if the hook leaves no carriage
return, and then the message can be shown with the kept text itself.
-/
theorem kept_text_of_parse_error
    {failure : Failure}
    (keepsOutlines : compiler.hooks.read.after = id)
    (resolves : compiler.hooks.resolve = {})
    (failed : compiler.parse source = .error failure) :
    ∃ diagnostic kept,
      failure = .parse (.ofDiagnostic diagnostic) kept ∧
        kept = compiler.hooks.read.before (String.ofList (normalizeNewlines source.toList)) ∧
          (Diagram.parse kept : Except Diagnostic (Diagram α)) = .error diagnostic ∧
            diagnostic.IsShownWith (normalizeNewlines kept.toList) ∧
              (kept = String.ofList (normalizeNewlines kept.toList) ↔ '\r' ∉ kept.toList) ∧
                ('\r' ∉ kept.toList → diagnostic.IsShownWith kept.toList) := by
  rw [parse_eq_mapError rfl keepsOutlines resolves] at failed
  obtain ⟨diagnostic, fails, same⟩ := Attempt.mapError_eq_error_iff.mp failed
  have shown := ((Diagram.parse_failsOnly _).of_eq fails).isShownWith
  refine ⟨diagnostic, _, same.symm, rfl, fails, shown, ⟨fun uniform => ?_, fun absent => ?_⟩,
    fun absent => ?_⟩
  · rw [uniform, String.toList_ofList]
    exact Text.return_notMem_normalizeNewlines _
  · rw [Text.normalizeNewlines_of_notMem absent, String.ofList_toList]
  · rwa [Text.normalizeNewlines_of_notMem absent] at shown

/-- A line end of two bytes that a hook writes shifts the mark on a name to half of the name. -/
theorem exists_kept_text_of_parse_error :
    ∃ (compiler : Compiler Rat) (diagnostic : Diagnostic),
      compiler.parse "(a)X{é -> b}" =
          .error (.parse (.ofDiagnostic diagnostic) "(a)\r\n{é -> b}") ∧
        diagnostic.labels.map (fun label => (label.span.start, label.span.stop)) = [(5, 7)] ∧
          diagnostic.IsShownWith "(a)\n{é -> b}".toList ∧
            ¬ IsBoundary "(a)\r\n{é -> b}".toList 7 := by
  let writeLineEnds (text : String) : String :=
    String.ofList (text.toList.flatMap fun char => if char = 'X' then ['\r', '\n'] else [char])
  let compiler : Compiler Rat := { hooks := { read := { before := writeLineEnds } } }
  have fails :
      ((reason? (compiler.parse "(a)X{é -> b}")).bind Failure.refusal?).map (fun refusal =>
          (refusal.2.toList, refusal.1.diagnostics.map fun diagnostic =>
            diagnostic.labels.map fun label => (label.span.start, label.span.stop))) =
        some ("(a)\r\n{é -> b}".toList, [[(5, 7)]]) := by
    decide +kernel
  obtain ⟨refusal, refused, facts⟩ := Option.map_eq_some_iff.mp fails
  obtain ⟨failure, failed, isRefusal⟩ := Option.bind_eq_some_iff.mp refused
  have failed := reason?_eq_some_iff.mp failed
  obtain ⟨diagnostic, kept, rfl, _, _, shown, _⟩ := kept_text_of_parse_error rfl rfl failed
  obtain rfl := Option.some.inj isRefusal
  obtain ⟨isKept, marks⟩ := Prod.mk.inj facts
  obtain rfl := String.toList_injective isKept
  refine ⟨compiler, diagnostic, failed, (List.cons.inj marks).1, ?_, ?_⟩
  · have uniform :
        normalizeNewlines "(a)\r\n{é -> b}".toList = "(a)\n{é -> b}".toList := by
      decide
    rwa [uniform] at shown
  · rintro ⟨before, after, same, isOffset⟩
    have isPart := List.prefix_iff_eq_take.mp ⟨after, same.symm⟩
    have short := (List.IsPrefix.length_le ⟨after, same.symm⟩ : before.length ≤ 13)
    have apart :
        ∀ count ≤ 13, 7 ≠ Text.byteLength ("(a)\r\n{é -> b}".toList.take count) := by
      decide
    exact apart _ short (isPart ▸ isOffset)

end Compiler

end BoxDiagram
