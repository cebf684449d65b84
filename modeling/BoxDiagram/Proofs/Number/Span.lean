import BoxDiagram.Layout.Arrangement
import BoxDiagram.Proofs.Number.Bounded

namespace BoxDiagram

/-!
# Spans of coordinates

A rounded sum of coordinates is off by at most one grain.  So a range that is computed in
a few steps stays where the exact range lies, but for a slack of a few grains around it,
and all of it is finite if the slack ends before the largest power of two.
-/

namespace Single

/-- The room from zero on and a slack around it leave many grains free. -/
structure IsCanvas (room slack : Rat) : Prop where
  room_nonneg : 0 ≤ room
  slack_nonneg : 0 ≤ slack
  inRange : room + slack + 256 * grain ≤ 2 ^ 127

/-- The coordinate is finite and at most a slack outside of the room. -/
structure IsNear (room slack : Rat) (number : Float32) : Prop where
  isFinite : Scalar.isFinite number = true
  low : -slack ≤ value number
  high : value number ≤ room + slack

/--
The ends of a range are in order, and at most a slack outside of the room; so is a
stretch of a given extent from either of them.
-/
structure IsSpan (room slack extent : Rat) (range : Float32 × Float32) : Prop where
  first : IsNear room slack range.1
  last : IsNear room slack range.2
  ordered : value range.1 ≤ value range.2
  fromFirst : value range.1 + extent ≤ room + slack
  fromLast : -slack ≤ value range.2 - extent

variable
  {room slack more extent less : Rat}
  {number first second last size : Float32}
  {range : Float32 × Float32}

/-- A canvas with less slack is one. -/
theorem IsCanvas.mono
    (canvas : IsCanvas room more)
    (slack_nonneg : 0 ≤ slack)
    (slack_le : slack ≤ more) :
    IsCanvas room slack :=
  ⟨canvas.room_nonneg, slack_nonneg, by linarith [canvas.inRange]⟩

/-- What is rounded on the canvas stays on it, but for one grain. -/
theorem Rounds.isNear
    {exact : Rat}
    (rounds : Rounds exact number)
    (canvas : IsCanvas room slack)
    (low : -slack ≤ exact)
    (high : exact ≤ room + slack) :
    IsNear room (slack + grain) number ∧ |value number - exact| ≤ grain := by
  have positive := grain_pos
  obtain ⟨_, _, inRange⟩ := canvas
  obtain ⟨isFinite, close⟩ := rounds.near (abs_le.mpr ⟨by linarith, by linarith⟩)
  obtain ⟨below, above⟩ := abs_le.mp close
  exact ⟨⟨isFinite, by linarith, by linarith⟩, close⟩

/-- What is near with a slack is near with a larger one. -/
theorem IsNear.mono
    (near : IsNear room slack number)
    (slack_le : slack ≤ more) :
    IsNear room more number :=
  ⟨near.isFinite, by linarith [near.low], by linarith [near.high]⟩

/-- The middle of two coordinates is rounded twice. -/
theorem IsNear.middle
    (firstNear : IsNear room slack first)
    (lastNear : IsNear room slack last)
    (canvas : IsCanvas room slack) :
    IsNear room (slack + 2 * grain) (Scalar.half (first + last)) ∧
      |value (Scalar.half (first + last)) - (value first + value last) / 2| ≤ 2 * grain := by
  have positive := grain_pos
  have ⟨_, firstLow, firstHigh⟩ := firstNear
  have ⟨_, lastLow, lastHigh⟩ := lastNear
  obtain ⟨_, _, inRange⟩ := canvas
  obtain ⟨sumFinite, sumClose⟩ := (rounds_add firstNear.isFinite lastNear.isFinite).near
    (abs_le.mpr ⟨by linarith, by linarith⟩)
  obtain ⟨sumBelow, sumAbove⟩ := abs_le.mp sumClose
  obtain ⟨isFinite, close⟩ := (rounds_half sumFinite).near (abs_le.mpr ⟨by linarith, by linarith⟩)
  obtain ⟨below, above⟩ := abs_le.mp close
  exact ⟨⟨isFinite, by linarith, by linarith⟩, abs_le.mpr ⟨by linarith, by linarith⟩⟩

/-- What is left of a number is off by at most one grain. -/
theorem positivePart_sub
    (firstFinite : Scalar.isFinite first = true)
    (secondFinite : Scalar.isFinite second = true)
    (small : |value first - value second| ≤ 2 ^ 128 - 2 * grain) :
    IsMeasure (Scalar.positivePart (first - second)) ∧
      |value (Scalar.positivePart (first - second)) - max (value first - value second) 0| ≤
        grain := by
  obtain ⟨isFinite, close⟩ := (rounds_sub firstFinite secondFinite).near small
  obtain ⟨measure, value_eq⟩ := isMeasure_positivePart isFinite
  refine ⟨measure, ?_⟩
  rw [value_eq]
  exact (abs_max_sub_max_le_abs _ _ _).trans close

/-- A range from a start on ends where its extent leads, but for one grain. -/
theorem isSpan_from
    (canvas : IsCanvas room slack)
    (start : IsNear room slack first)
    (measure : IsMeasure size)
    (fits : value first + value size ≤ room + slack) :
    IsSpan room (slack + grain) (value size) (first, first + size) := by
  have positive := grain_pos
  have nonneg := measure.nonneg
  have rounds := rounds_add start.isFinite measure.isFinite
  obtain ⟨last, close⟩ := rounds.isNear canvas (by linarith [start.low]) fits
  obtain ⟨below, above⟩ := abs_le.mp close
  exact {
    first := start.mono (by linarith)
    last := last
    ordered := (rounds.nearest last.isFinite).ge (isRepresentable_value start.isFinite)
      (le_add_of_nonneg_right nonneg)
    fromFirst := by linarith
    fromLast := by linarith [start.low] }

/-- A range up to an end starts where its extent leads, but for one grain. -/
theorem isSpan_upTo
    (canvas : IsCanvas room slack)
    (finish : IsNear room slack last)
    (measure : IsMeasure size)
    (fits : -slack ≤ value last - value size) :
    IsSpan room (slack + grain) (value size) (last - size, last) := by
  have positive := grain_pos
  have nonneg := measure.nonneg
  have rounds := rounds_sub finish.isFinite measure.isFinite
  obtain ⟨first, close⟩ := rounds.isNear canvas fits (by linarith [finish.high])
  obtain ⟨below, above⟩ := abs_le.mp close
  exact {
    first := first
    last := finish.mono (by linarith)
    ordered := (rounds.nearest first.isFinite).le (isRepresentable_value finish.isFinite)
      (sub_le_self _ nonneg)
    fromFirst := by linarith [finish.high]
    fromLast := by linarith }

namespace IsSpan

/-- A span with a slack is one with a larger slack and a smaller extent. -/
theorem mono
    (span : IsSpan room slack extent range)
    (slack_le : slack ≤ more)
    (less_le : less ≤ extent) :
    IsSpan room more less range where
  first := span.first.mono slack_le
  last := span.last.mono slack_le
  ordered := span.ordered
  fromFirst := by linarith [span.fromFirst]
  fromLast := by linarith [span.fromLast]

/-- The distance of the ends is a measure, and off by at most one grain. -/
theorem distance
    (span : IsSpan room slack extent range)
    (canvas : IsCanvas room slack) :
    IsMeasure (range.2 - range.1) ∧
      |value (range.2 - range.1) - (value range.2 - value range.1)| ≤ grain := by
  have positive := grain_pos
  obtain ⟨_, _, inRange⟩ := canvas
  have ordered := span.ordered
  have rounds := rounds_sub span.last.isFinite span.first.isFinite
  obtain ⟨isFinite, close⟩ := rounds.near
    (abs_le.mpr ⟨by linarith, by linarith [span.last.high, span.first.low]⟩)
  exact ⟨⟨isFinite, (rounds.nearest isFinite).ge isRepresentable_zero (sub_nonneg.mpr ordered)⟩,
    close⟩

/-- A range that is given by its start and its length is the same but for two grains. -/
theorem relay
    (span : IsSpan room slack extent range)
    (canvas : IsCanvas room slack) :
    IsSpan room (slack + 2 * grain) extent (range.1, range.1 + (range.2 - range.1)) := by
  have positive := grain_pos
  have ⟨_, _, inRange⟩ := canvas
  obtain ⟨measure, distanceClose⟩ := span.distance canvas
  obtain ⟨distanceBelow, distanceAbove⟩ := abs_le.mp distanceClose
  have rounds := rounds_add span.first.isFinite measure.isFinite
  obtain ⟨isFinite, close⟩ := rounds.near (abs_le.mpr
    ⟨by linarith [span.last.low], by linarith [span.last.high]⟩)
  obtain ⟨below, above⟩ := abs_le.mp close
  exact {
    first := span.first.mono (by linarith)
    last := ⟨isFinite, by linarith [span.last.low], by linarith [span.last.high]⟩
    ordered := (rounds.nearest isFinite).ge (isRepresentable_value span.first.isFinite)
      (le_add_of_nonneg_right measure.nonneg)
    fromFirst := by linarith [span.fromFirst]
    fromLast := by linarith [span.fromLast] }

/-- Taking strips away at both ends leaves what the extent leaves, but for one grain. -/
theorem shrink
    {before after : Float32}
    {inner excess : Rat}
    (span : IsSpan room slack extent range)
    (canvas : IsCanvas room (slack + excess))
    (beforeMeasure : IsMeasure before)
    (afterMeasure : IsMeasure after)
    (inner_nonneg : 0 ≤ inner)
    (excess_nonneg : 0 ≤ excess)
    (fits : value before + inner + value after ≤ extent + excess) :
    IsSpan room (slack + excess + grain) inner
      (range.1 + before, Scalar.larger (range.2 - after) (range.1 + before)) := by
  have positive := grain_pos
  have beforeNonneg := beforeMeasure.nonneg
  have afterNonneg := afterMeasure.nonneg
  have ⟨_, firstLow, firstHigh⟩ := span.first
  have ⟨_, lastLow, lastHigh⟩ := span.last
  have fromFirst := span.fromFirst
  have fromLast := span.fromLast
  obtain ⟨first, firstClose⟩ := (rounds_add span.first.isFinite beforeMeasure.isFinite).isNear
    canvas (by linarith) (by linarith)
  obtain ⟨last, lastClose⟩ := (rounds_sub span.last.isFinite afterMeasure.isFinite).isNear
    canvas (by linarith) (by linarith)
  obtain ⟨firstBelow, firstAbove⟩ := abs_le.mp firstClose
  obtain ⟨lastBelow, lastAbove⟩ := abs_le.mp lastClose
  have larger := value_larger last.isFinite first.isFinite
  constructor
  case first => exact first
  case last =>
    rcases larger_eq_or_eq (range.2 - after) (range.1 + before) with same | same
    · exact same.symm ▸ last
    · exact same.symm ▸ first
  case ordered => exact larger ▸ le_max_right _ _
  case fromFirst => linarith
  case fromLast =>
    have outermost := le_max_left (value (range.2 - after)) (value (range.1 + before))
    linarith [larger]

/-- A stretch from the start on that leaves an extent free leaves it after the stretch. -/
theorem rest
    {inner excess : Rat}
    (span : IsSpan room slack extent range)
    (canvas : IsCanvas room (slack + excess + 3 * grain))
    (slack_nonneg : 0 ≤ slack)
    (measure : IsMeasure size)
    (inner_nonneg : 0 ≤ inner)
    (excess_nonneg : 0 ≤ excess)
    (fits : value size + inner ≤ extent + excess) :
    IsSpan room (slack + excess + 4 * grain) inner
      (range.1 + size,
        range.1 + size + Scalar.positivePart (range.2 - range.1 - size)) := by
  have positive := grain_pos
  have ⟨_, _, inRange⟩ := canvas
  have nonneg := measure.nonneg
  have ⟨_, firstLow, firstHigh⟩ := span.first
  have ⟨_, lastLow, lastHigh⟩ := span.last
  have fromFirst := span.fromFirst
  have fromLast := span.fromLast
  obtain ⟨first, firstClose⟩ := (rounds_add span.first.isFinite measure.isFinite).isNear
    (canvas.mono (show 0 ≤ slack + excess by linarith) (by linarith)) (by linarith) (by linarith)
  obtain ⟨firstBelow, firstAbove⟩ := abs_le.mp firstClose
  obtain ⟨length, lengthClose⟩ :=
    span.distance (canvas.mono slack_nonneg (by linarith))
  obtain ⟨lengthBelow, lengthAbove⟩ := abs_le.mp lengthClose
  obtain ⟨free, freeClose⟩ := positivePart_sub length.isFinite measure.isFinite
    (abs_le.mpr ⟨by linarith [length.nonneg], by linarith⟩)
  obtain ⟨freeBelow, freeAbove⟩ := abs_le.mp freeClose
  have free_ge := le_max_left (value (range.2 - range.1) - value size) 0
  -- What is left ends where the range ends, or right at its start if nothing is left.
  have free_le :
      max (value (range.2 - range.1) - value size) 0 ≤
        room + slack + excess + grain - value range.1 - value size :=
    max_le (by linarith) (by linarith)
  have rounds := rounds_add first.isFinite free.isFinite
  obtain ⟨last, lastClose⟩ := rounds.isNear canvas (by linarith [first.low, free.nonneg])
    (by linarith)
  obtain ⟨lastBelow, lastAbove⟩ := abs_le.mp lastClose
  exact {
    first := first.mono (by linarith)
    last := last.mono (by linarith)
    ordered := (rounds.nearest last.isFinite).ge (isRepresentable_value first.isFinite)
      (le_add_of_nonneg_right free.nonneg)
    fromFirst := by linarith
    fromLast := by linarith }

/-- What two stretches leave of a range is a measure, and no more than they leave exactly. -/
theorem space
    {before after : Float32}
    (span : IsSpan room slack extent range)
    (canvas : IsCanvas room slack)
    (beforeMeasure : IsMeasure before)
    (afterMeasure : IsMeasure after)
    (fits : value before + value after ≤ extent + 2 * grain) :
    IsMeasure (Scalar.positivePart (range.2 - range.1 - before - after)) ∧
      ∀ {most : Rat}, value range.2 - value range.1 ≤ most → extent ≤ most →
        value (Scalar.positivePart (range.2 - range.1 - before - after)) ≤
          most + 4 * grain - value before := by
  have positive := grain_pos
  have beforeNonneg := beforeMeasure.nonneg
  have afterNonneg := afterMeasure.nonneg
  obtain ⟨length, lengthClose⟩ := span.distance canvas
  obtain ⟨lengthBelow, lengthAbove⟩ := abs_le.mp lengthClose
  have ⟨_, firstLow, firstHigh⟩ := span.first
  have ⟨_, lastLow, lastHigh⟩ := span.last
  have fromFirst := span.fromFirst
  have ordered := span.ordered
  obtain ⟨_, _, inRange⟩ := canvas
  obtain ⟨restFinite, restClose⟩ := (rounds_sub length.isFinite beforeMeasure.isFinite).near
    (abs_le.mpr ⟨by linarith, by linarith⟩)
  obtain ⟨restBelow, restAbove⟩ := abs_le.mp restClose
  obtain ⟨free, freeClose⟩ := positivePart_sub restFinite afterMeasure.isFinite
    (abs_le.mpr ⟨by linarith, by linarith⟩)
  refine ⟨free, ?_⟩
  intro most length_le extent_le
  have left_le :
      max (value (range.2 - range.1 - before) - value after) 0 ≤
        most + 3 * grain - value before :=
    max_le (by linarith) (by linarith)
  linarith [le_of_abs_le freeClose]

end IsSpan

/-- A stretch of a range, from either end of it, is at most a slack outside of the room. -/
structure IsOnRange
    (room slack : Rat)
    (range : Float32 × Float32)
    (stretch : Stretch Float32) : Prop where
  offset_isFinite : Scalar.isFinite stretch.offset = true
  extent : IsMeasure stretch.extent
  low : -slack ≤ value range.1 + value stretch.offset
  high : value range.1 + value stretch.offset + value stretch.extent ≤ room + slack
  lowReversed : -slack ≤ value range.2 - value stretch.offset - value stretch.extent
  highReversed : value range.2 - value stretch.offset ≤ room + slack

namespace IsOnRange

variable {stretch : Stretch Float32}

/-- What is on a range with a slack is on it with a larger one. -/
theorem mono
    (onRange : IsOnRange room slack range stretch)
    (slack_le : slack ≤ more) :
    IsOnRange room more range stretch :=
  { onRange with
    low := by linarith [onRange.low]
    high := by linarith [onRange.high]
    lowReversed := by linarith [onRange.lowReversed]
    highReversed := by linarith [onRange.highReversed] }

/-- What lies within the extent of a range is on the range. -/
theorem of_le
    {excess : Rat}
    (span : IsSpan room slack extent range)
    (offsetMeasure : IsMeasure stretch.offset)
    (extentMeasure : IsMeasure stretch.extent)
    (excess_nonneg : 0 ≤ excess)
    (fits : value stretch.offset + value stretch.extent ≤ extent + excess) :
    IsOnRange room (slack + excess) range stretch where
  offset_isFinite := offsetMeasure.isFinite
  extent := extentMeasure
  low := by linarith [span.first.low, offsetMeasure.nonneg]
  high := by linarith [span.fromFirst]
  lowReversed := by linarith [span.fromLast]
  highReversed := by linarith [span.last.high, offsetMeasure.nonneg]

/-- A stretch in either direction is where it is exactly, but for two grains. -/
theorem isSpan_within
    (onRange : IsOnRange room slack range stretch)
    (canvas : IsCanvas room (slack + grain))
    (slack_nonneg : 0 ≤ slack)
    (firstFinite : Scalar.isFinite range.1 = true)
    (lastFinite : Scalar.isFinite range.2 = true)
    (reversed : Bool) :
    IsSpan room (slack + 2 * grain) (value stretch.extent) (stretch.within range reversed) := by
  have positive := grain_pos
  obtain ⟨offsetFinite, measure, low, high, lowReversed, highReversed⟩ := onRange
  have nonneg := measure.nonneg
  have inner : IsCanvas room slack := canvas.mono slack_nonneg (by linarith)
  have twice : slack + 2 * grain = slack + grain + grain := by ring
  rw [twice]
  cases reversed with
  | true =>
      obtain ⟨finish, close⟩ :=
        (rounds_sub lastFinite offsetFinite).isNear inner (by linarith) highReversed
      obtain ⟨below, above⟩ := abs_le.mp close
      exact isSpan_upTo canvas finish measure (by linarith)
  | false =>
      obtain ⟨start, close⟩ :=
        (rounds_add firstFinite offsetFinite).isNear inner low (by linarith)
      obtain ⟨below, above⟩ := abs_le.mp close
      exact isSpan_from canvas start measure (by linarith)

/-- The stretch that takes all of a range is on the range, but for one grain. -/
theorem whole
    (span : IsSpan room slack extent range)
    (canvas : IsCanvas room slack) :
    IsOnRange room (slack + grain) range ⟨Scalar.zero, range.2 - range.1⟩ := by
  have positive := grain_pos
  obtain ⟨measure, close⟩ := span.distance canvas
  obtain ⟨below, above⟩ := abs_le.mp close
  have ⟨_, firstLow, _⟩ := span.first
  have ⟨_, _, lastHigh⟩ := span.last
  have zero_eq := value_zero
  exact {
    offset_isFinite := isFinite_zero
    extent := measure
    low := by linarith
    high := by linarith
    lowReversed := by linarith
    highReversed := by linarith }

/-- The stretch of an extent that ends with a range is on the range, but for a few grains. -/
theorem atEnd
    (span : IsSpan room slack extent range)
    (canvas : IsCanvas room slack)
    (measure : IsMeasure size)
    (fits : value size ≤ extent + 2 * grain) :
    IsOnRange room (slack + 4 * grain) range ⟨range.2 - range.1 - size, size⟩ := by
  have positive := grain_pos
  have nonneg := measure.nonneg
  obtain ⟨length, lengthClose⟩ := span.distance canvas
  obtain ⟨lengthBelow, lengthAbove⟩ := abs_le.mp lengthClose
  have ⟨_, firstLow, firstHigh⟩ := span.first
  have ⟨_, lastLow, lastHigh⟩ := span.last
  have fromFirst := span.fromFirst
  have fromLast := span.fromLast
  have ordered := span.ordered
  obtain ⟨_, _, inRange⟩ := canvas
  obtain ⟨isFinite, close⟩ := (rounds_sub length.isFinite measure.isFinite).near
    (abs_le.mpr ⟨by linarith, by linarith⟩)
  obtain ⟨below, above⟩ := abs_le.mp close
  exact {
    offset_isFinite := isFinite
    extent := measure
    low := by linarith
    high := by linarith
    lowReversed := by linarith
    highReversed := by linarith }

/--
A stretch between two others is on the range if all three fit, however far the space
between the others is used, but for a few grains.
-/
theorem between
    {before after offset : Float32}
    (span : IsSpan room slack extent range)
    (canvas : IsCanvas room slack)
    (beforeMeasure : IsMeasure before)
    (afterMeasure : IsMeasure after)
    (measure : IsMeasure size)
    (fits : value before + value after + value size ≤ extent + 2 * grain)
    (offsetMeasure : IsMeasure offset)
    (offset_le :
      value offset ≤
        max (value (Scalar.positivePart (range.2 - range.1 - before - after)) - value size) 0 +
          grain) :
    IsOnRange room (slack + 6 * grain) range ⟨before + offset, size⟩ := by
  have positive := grain_pos
  have nonneg := measure.nonneg
  have beforeNonneg := beforeMeasure.nonneg
  have afterNonneg := afterMeasure.nonneg
  have offsetNonneg := offsetMeasure.nonneg
  have ⟨_, firstLow, firstHigh⟩ := span.first
  have ⟨_, lastLow, lastHigh⟩ := span.last
  have fromFirst := span.fromFirst
  have fromLast := span.fromLast
  obtain ⟨_, free_le⟩ := span.space canvas beforeMeasure afterMeasure (by linarith)
  -- The offset leaves what is measured from either end of the range free.
  have offset_le_of :
      ∀ {most : Rat}, value range.2 - value range.1 ≤ most → extent ≤ most →
        value offset ≤ most + 5 * grain - value before - value size := by
    intro most length_le extent_le
    have left_le :
        max (value (Scalar.positivePart (range.2 - range.1 - before - after)) - value size) 0 ≤
          most + 4 * grain - value before - value size :=
      max_le (by linarith [free_le length_le extent_le]) (by linarith)
    linarith
  have fromStart := offset_le_of (show _ ≤ room + slack - value range.1 by linarith) (by linarith)
  have fromEnd := offset_le_of (show _ ≤ value range.2 + slack by linarith) (by linarith)
  obtain ⟨_, _, inRange⟩ := canvas
  obtain ⟨isFinite, close⟩ := (rounds_add beforeMeasure.isFinite offsetMeasure.isFinite).near
    (abs_le.mpr ⟨by linarith, by linarith⟩)
  obtain ⟨below, above⟩ := abs_le.mp close
  exact {
    offset_isFinite := isFinite
    extent := measure
    low := by linarith
    high := by linarith
    lowReversed := by linarith
    highReversed := by linarith }

end IsOnRange

/-- A range that reaches as far to both sides of a line. -/
theorem isSpan_beside
    (canvas : IsCanvas room slack)
    (line : IsNear room slack first)
    (measure : IsMeasure size)
    (low : -slack ≤ value first - value size)
    (high : value first + value size ≤ room + slack) :
    IsSpan room (slack + grain) 0 (first - size, first + size) := by
  have before := isSpan_upTo canvas line measure low
  have after := isSpan_from canvas line measure high
  exact {
    first := before.first
    last := after.last
    ordered := before.ordered.trans after.ordered
    fromFirst := by linarith [before.first.high]
    fromLast := by linarith [after.last.low] }

/-- A range of any finite extent around a middle on the canvas is finite. -/
theorem isFinite_around
    (canvas : IsCanvas room slack)
    (middle : IsNear room slack first)
    (measure : IsMeasure size) :
    Scalar.isFinite (first - Scalar.half size) = true ∧
      Scalar.isFinite (first - Scalar.half size + size) = true := by
  have positive := grain_pos
  have nonneg := measure.nonneg
  obtain ⟨_, _, inRange⟩ := canvas
  obtain ⟨middleFinite, low, high⟩ := middle
  have size_le : value size ≤ 2 ^ 128 - 2 * grain :=
    (le_of_abs_le (abs_value_le size)).trans_eq (by norm_num [grain])
  obtain ⟨halfFinite, halfClose⟩ := (rounds_half measure.isFinite).near
    (abs_le.mpr ⟨by linarith, by linarith⟩)
  obtain ⟨halfBelow, halfAbove⟩ := abs_le.mp halfClose
  obtain ⟨startFinite, startClose⟩ := (rounds_sub middleFinite halfFinite).near
    (abs_le.mpr ⟨by linarith, by linarith⟩)
  obtain ⟨startBelow, startAbove⟩ := abs_le.mp startClose
  obtain ⟨finishFinite, _⟩ := (rounds_add startFinite measure.isFinite).near
    (abs_le.mpr ⟨by linarith, by linarith⟩)
  exact ⟨startFinite, finishFinite⟩

end Single

end BoxDiagram
