import BoxDiagram.Layout.Polyline
import BoxDiagram.Proofs.Attempt
import Mathlib.Data.List.Chain

namespace BoxDiagram

/-!
# Drawn links

A link is drawn as soon as its gates and the roads of its route have their places.
Its corners go exactly along the axes from gate to gate.  The points that are kept of
them start at the first gate and stay close to the walk, but they reach the last gate
along the axes only where no two coordinates that count as one are different.
-/

variable {α : Type}

namespace Point

/-- One coordinate of the points is the same. -/
def SharesAxis (first second : Point α) : Prop :=
  first.x = second.x ∨ first.y = second.y

/-- A point that is moved along one axis shares the other coordinate. -/
theorem sharesAxis_withAlong
    (point : Point α)
    (axis : Axis)
    (value : α) :
    point.SharesAxis (point.withAlong axis value) := by
  cases axis with
  | main =>
      exact .inr rfl
  | cross =>
      exact .inl rfl

theorem sharesAxis_of_along_eq
    {first second : Point α}
    {axis : Axis}
    (same : first.along axis = second.along axis) :
    first.SharesAxis second := by
  cases axis with
  | main =>
      exact .inl same
  | cross =>
      exact .inr same

/-- A change along one axis keeps the coordinate along the other one. -/
theorem along_withAlong_of_ne
    {axis changed : Axis}
    (differ : changed ≠ axis)
    (point : Point α)
    (value : α) :
    (point.withAlong changed value).along axis = point.along axis := by
  cases changed <;> cases axis <;> first | rfl | exact absurd rfl differ

variable [Scalar α]

/-- One coordinate of the points has the same value. -/
def IsAligned (first second : Point α) : Prop :=
  Scalar.equal first.x second.x = true ∨ Scalar.equal first.y second.y = true

end Point

namespace Polyline

/-- A walk goes along the axes from one point to another one. -/
structure IsOrthogonal (start finish : Point α) (corners : List (Point α)) : Prop where
  first : corners.head? = some start
  last : corners.getLast? = some finish
  along : corners.IsChain Point.SharesAxis
  twoCorners : 2 ≤ corners.length

/-- An orthogonal line has at least two corners. -/
theorem IsOrthogonal.exists_rest
    {start finish : Point α}
    {corners : List (Point α)}
    (orthogonal : IsOrthogonal start finish corners) :
    ∃ next rest, corners = start :: next :: rest := by
  obtain ⟨isFirst, _, _, twoCorners⟩ := orthogonal
  match corners, isFirst, twoCorners with
  | first :: next :: rest, isFirst, _ =>
      exact ⟨next, rest, by rw [Option.some.inj isFirst]⟩

/-- Consecutive turns of a walk share a coordinate. -/
theorem isChain_turns
    (start : Point α)
    (lanes : List (Axis × α)) :
    (start :: turns start lanes).IsChain Point.SharesAxis := by
  induction lanes generalizing start with
  | nil =>
      exact .singleton start
  | cons lane rest inductionHypothesis =>
      obtain ⟨axis, line⟩ := lane
      exact .cons_cons (start.sharesAxis_withAlong axis line)
        (inductionHypothesis (start.withAlong axis line))

/-- The last turn of a walk lies on its last lane. -/
theorem exists_getLast?_turns
    {start : Point α}
    {lanes : List (Axis × α)}
    {axis : Axis}
    {line : α}
    (isLast : lanes.getLast? = some (axis, line)) :
    ∃ point, (turns start lanes).getLast? = some point ∧ point.along axis = line := by
  induction lanes generalizing start with
  | nil =>
      cases isLast
  | cons lane rest inductionHypothesis =>
      cases rest with
      | nil =>
          cases isLast
          exact ⟨start.withAlong axis line, rfl, start.along_withAlong axis line⟩
      | cons next others =>
          rw [List.getLast?_cons_cons] at isLast
          obtain ⟨point, found, onLine⟩ := inductionHypothesis isLast
          refine ⟨point, ?_, onLine⟩
          rw [turns, List.getLast?_cons, found]
          rfl

/-- The corners of a link go along the axes from gate to gate. -/
theorem isOrthogonal_corners
    {lanes : List (Axis × α)}
    (start finish : Point α)
    (travelled : lanes ≠ []) :
    IsOrthogonal start finish (corners start finish lanes) := by
  obtain ⟨⟨axis, line⟩, isLast⟩ := List.getLast?_isSome.mpr travelled |> Option.isSome_iff_exists.mp
  obtain ⟨point, found, onLine⟩ : ∃ point, (turns start lanes).getLast? = some point ∧
      point.along axis = line := exists_getLast?_turns isLast
  have split :
      corners start finish lanes =
        (start :: turns start lanes) ++ [finish.withAlong axis line, finish] := by
    simp [corners, isLast]
  rw [split]
  constructor
  case first =>
    rfl
  case last =>
    rw [List.getLast?_append]
    rfl
  case along =>
    refine (isChain_turns start lanes).append ?_ ?_
    · exact .cons_cons
        (Point.sharesAxis_of_along_eq (finish.along_other_withAlong axis line))
        (.singleton finish)
    · intro earlier isEarlier later isLater
      rw [List.getLast?_cons, found] at isEarlier
      cases isEarlier
      cases isLater
      exact Point.sharesAxis_of_along_eq
        (onLine.trans (finish.along_withAlong axis line).symm)
  case twoCorners =>
    simp

/-- Each turn of a walk is on one of its lanes. -/
theorem exists_lane_of_mem_turns
    {start point : Point α}
    {lanes : List (Axis × α)}
    (member : point ∈ turns start lanes) :
    ∃ line ∈ lanes, point.along line.1 = line.2 := by
  induction lanes generalizing start with
  | nil =>
      cases member
  | cons lane rest inductionHypothesis =>
      rcases List.mem_cons.mp member with rfl | isLater
      · exact ⟨lane, List.mem_cons_self, start.along_withAlong _ _⟩
      · obtain ⟨line, isLane, onLine⟩ := inductionHypothesis isLater
        exact ⟨line, List.mem_cons_of_mem _ isLane, onLine⟩

/-- A corner of a walk is one of the gates or lies on the line of a lane. -/
theorem gate_or_lane_of_mem_corners
    {start finish point : Point α}
    {lanes : List (Axis × α)}
    (member : point ∈ corners start finish lanes) :
    point = start ∨ point = finish ∨ ∃ line ∈ lanes, point.along line.1 = line.2 := by
  simp only [corners, List.cons_append, List.mem_cons, List.mem_append, Option.mem_toList,
    Option.map_eq_some_iff, List.not_mem_nil, or_false] at member
  rcases member with isStart | (isTurn | ⟨line, isLast, rfl⟩) | isFinish
  · exact .inl isStart
  · exact .inr (.inr (exists_lane_of_mem_turns isTurn))
  · exact .inr (.inr ⟨line, List.mem_of_getLast? isLast, finish.along_withAlong _ _⟩)
  · exact .inr (.inl isFinish)

theorem corners_cons_cons
    (start finish : Point α)
    (line next : Axis × α)
    (rest : List (Axis × α)) :
    corners start finish (line :: next :: rest) =
      start :: corners (start.withAlong line.1 line.2) finish (next :: rest) := by
  simp [corners, turns]

/-- A walk keeps to the line of a lane from the corner where it comes there to the next one. -/
theorem exists_corners_on_lane
    {lanes : List (Axis × α)}
    (crossing : lanes.IsChain fun line next => line.1 ≠ next.1)
    (start finish : Point α)
    {index : Nat}
    {line : Axis × α}
    (isLane : lanes[index]? = some line) :
    ∃ entry exit,
      (corners start finish lanes)[index + 1]? = some entry ∧
        (corners start finish lanes)[index + 2]? = some exit ∧
          entry.along line.1 = line.2 ∧ exit.along line.1 = line.2 := by
  induction lanes generalizing start index with
  | nil =>
      cases isLane
  | cons lane rest inductionHypothesis =>
      cases rest with
      | nil =>
          obtain rfl : index = 0 := by
            have inside := (List.getElem?_eq_some_iff.mp isLane).1
            simpa using inside
          cases isLane
          exact ⟨_, _, rfl, rfl, start.along_withAlong _ _, finish.along_withAlong _ _⟩
      | cons next others =>
          rw [List.isChain_cons_cons] at crossing
          rw [corners_cons_cons]
          cases index with
          | zero =>
              cases isLane
              refine ⟨_, _, rfl, rfl, start.along_withAlong _ _, ?_⟩
              rw [Point.along_withAlong_of_ne crossing.1.symm]
              exact start.along_withAlong _ _
          | succ index =>
              exact inductionHypothesis crossing.2 _ isLane

variable [Scalar α]

/-- A coordinate is another one or counts as it. -/
def IsNear (first second : α) : Prop :=
  first = second ∨ isClose first second = true

/-- The points lie along one axis but for twice what still counts as one coordinate. -/
def IsNearlyAligned (first second : Point α) : Prop :=
  ∃ between : Point α,
    IsNear first.x between.x ∧ IsNear between.x second.x ∨
      IsNear first.y between.y ∧ IsNear between.y second.y

/-- A line leads along the axes from one gate to another one. -/
structure IsAttached (start finish : Point α) (points : List (Point α)) : Prop where
  twoPoints : 2 ≤ points.length
  first : points.head? = some start
  last : points.getLast? = some finish
  aligned : points.IsChain Point.IsAligned

/--
The rest of a walk keeps its line attached to its end, where the line so far ends in
the given two points.  A point that counts as the latest one is passed over, so that it
must not be the end of the walk unless it is the same; the latest point is given up on
a straight run, and has to be aligned where it stays.
-/
def StaysAttached (finish : Point α) : Option (Point α) → Point α → List (Point α) → Prop
  | none, _, [] => False
  | some before, latest, [] => before.IsAligned latest ∧ latest = finish
  | before, latest, point :: rest =>
      if samePoint latest point then StaysAttached finish before latest rest
      else
        match before with
        | none => StaysAttached finish (some latest) point rest
        | some before =>
            if collinear before latest point then StaysAttached finish (some before) point rest
            else before.IsAligned latest ∧ StaysAttached finish (some latest) point rest

section Extend

variable {before latest point : Point α} {earlier : List (Point α)}

/-- A point that is hardly another one is dropped. -/
theorem extend_same
    (same : samePoint latest point = true) :
    extend (latest :: earlier) point = latest :: earlier :=
  if_pos same

/-- A second point is kept. -/
theorem extend_first
    (apart : ¬ samePoint latest point = true) :
    extend [latest] point = [point, latest] :=
  if_neg apart

/-- A point straight ahead takes the place of the last one. -/
theorem extend_straight
    (apart : ¬ samePoint latest point = true)
    (straight : collinear before latest point = true) :
    extend (latest :: before :: earlier) point = point :: before :: earlier :=
  (if_neg apart).trans (if_pos straight)

/-- A point around a corner is kept. -/
theorem extend_turn
    (apart : ¬ samePoint latest point = true)
    (turned : ¬ collinear before latest point = true) :
    extend (latest :: before :: earlier) point = point :: latest :: before :: earlier :=
  (if_neg apart).trans (if_neg turned)

end Extend

/-- The points kept so far end attached exactly if they are aligned and the rest stays so. -/
theorem isAttached_foldl_iff
    {finish latest : Point α}
    {earlier rest : List (Point α)} :
    2 ≤ (rest.foldl extend (latest :: earlier)).length ∧
        (rest.foldl extend (latest :: earlier)).head? = some finish ∧
          (rest.foldl extend (latest :: earlier)).IsChain (flip Point.IsAligned) ↔
      earlier.IsChain (flip Point.IsAligned) ∧
        StaysAttached finish earlier.head? latest rest := by
  induction rest generalizing latest earlier with
  | nil =>
      cases earlier with
      | nil =>
          simp [StaysAttached]
      | cons before others =>
          simp only [List.foldl_nil, List.length_cons, List.head?_cons, Option.some.injEq,
            List.isChain_cons_cons, StaysAttached, flip]
          constructor
          · rintro ⟨_, isFinish, aligned, chain⟩
            exact ⟨chain, aligned, isFinish⟩
          · rintro ⟨chain, aligned, isFinish⟩
            exact ⟨by omega, isFinish, aligned, chain⟩
  | cons point rest inductionHypothesis =>
      rw [List.foldl_cons]
      by_cases same : samePoint latest point = true
      · rw [extend_same same, inductionHypothesis]
        cases earlier <;> simp [StaysAttached, same]
      · cases earlier with
        | nil =>
            rw [extend_first same, inductionHypothesis]
            simp [StaysAttached, same]
        | cons before others =>
            by_cases straight : collinear before latest point = true
            · rw [extend_straight same straight, inductionHypothesis]
              simp [StaysAttached, same, straight]
            · rw [extend_turn same straight, inductionHypothesis]
              simp only [StaysAttached, same, straight, List.isChain_cons_cons, flip,
                List.head?_cons, Bool.false_eq_true, if_false]
              constructor
              · rintro ⟨⟨aligned, chain⟩, stays⟩
                exact ⟨chain, aligned, stays⟩
              · rintro ⟨chain, aligned, stays⟩
                exact ⟨⟨aligned, chain⟩, stays⟩

/-- The first point of a line is always kept. -/
theorem getLast?_foldl
    (latest : Point α)
    (earlier rest : List (Point α)) :
    (rest.foldl extend (latest :: earlier)).getLast? = (latest :: earlier).getLast? := by
  induction rest generalizing latest earlier with
  | nil =>
      rfl
  | cons point rest inductionHypothesis =>
      rw [List.foldl_cons]
      by_cases same : samePoint latest point = true
      · rw [extend_same same, inductionHypothesis]
      · cases earlier with
        | nil =>
            rw [extend_first same, inductionHypothesis]
            rfl
        | cons before others =>
            by_cases straight : collinear before latest point = true
            · rw [extend_straight same straight, inductionHypothesis, List.getLast?_cons_cons,
                List.getLast?_cons_cons]
            · rw [extend_turn same straight, inductionHypothesis, List.getLast?_cons_cons]

/-- What is kept of a walk are some of its points, in order. -/
theorem sublist_foldl
    (kept points : List (Point α)) :
    (points.foldl extend kept).reverse.Sublist (kept.reverse ++ points) := by
  induction points generalizing kept with
  | nil =>
      rw [List.foldl_nil, List.append_nil]
  | cons point rest inductionHypothesis =>
      have step : (extend kept point).reverse.Sublist (kept.reverse ++ [point]) := by
        cases kept with
        | nil =>
            exact .refl _
        | cons latest earlier =>
            by_cases same : samePoint latest point = true
            · rw [extend_same same]
              exact List.sublist_append_left _ _
            · cases earlier with
              | nil =>
                  rw [extend_first same]
                  exact .refl _
              | cons before others =>
                  by_cases straight : collinear before latest point = true
                  · rw [extend_straight same straight]
                    simp
                  · rw [extend_turn same straight, List.reverse_cons]
      rw [List.foldl_cons, List.append_cons]
      exact (inductionHypothesis _).trans (step.append_right rest)

/-- Passing over a point along an axis leaves the next one nearly aligned. -/
theorem isNearlyAligned_of_sharesAxis
    {latest corner point : Point α}
    (atCorner : latest = corner ∨ samePoint latest corner = true)
    (shared : corner.SharesAxis point) :
    IsNearlyAligned latest point := by
  have isNear : IsNear latest.x corner.x ∧ IsNear latest.y corner.y := by
    rcases atCorner with rfl | same
    · exact ⟨.inl rfl, .inl rfl⟩
    · rw [samePoint, Bool.and_eq_true] at same
      exact ⟨.inr same.1, .inr same.2⟩
  rcases shared with sameX | sameY
  · exact ⟨corner, .inl ⟨isNear.1, .inl sameX⟩⟩
  · exact ⟨corner, .inr ⟨isNear.2, .inl sameY⟩⟩

theorem isNearlyAligned_of_collinear
    {before latest point : Point α}
    (straight : collinear before latest point = true) :
    IsNearlyAligned before point := by
  simp only [collinear, Bool.or_eq_true, Bool.and_eq_true] at straight
  rcases straight with ⟨first, second⟩ | ⟨first, second⟩
  · exact ⟨latest, .inl ⟨.inr first, .inr second⟩⟩
  · exact ⟨latest, .inr ⟨.inr first, .inr second⟩⟩

/-- What is kept of a walk along the axes stays close to it up to its end. -/
theorem isNearlyAligned_foldl
    {finish latest corner : Point α}
    {earlier rest : List (Point α)}
    (atCorner : latest = corner ∨ samePoint latest corner = true)
    (along : (corner :: rest).IsChain Point.SharesAxis)
    (isFinish : (corner :: rest).getLast? = some finish)
    (aligned : (latest :: earlier).IsChain (flip IsNearlyAligned)) :
    (rest.foldl extend (latest :: earlier)).IsChain (flip IsNearlyAligned) ∧
      ∃ last, (rest.foldl extend (latest :: earlier)).head? = some last ∧
        (last = finish ∨ samePoint last finish = true) := by
  induction rest generalizing latest corner earlier with
  | nil =>
      cases isFinish
      exact ⟨aligned, latest, rfl, atCorner⟩
  | cons point rest inductionHypothesis =>
      rw [List.isChain_cons_cons] at along
      rw [List.getLast?_cons_cons] at isFinish
      have reached := isNearlyAligned_of_sharesAxis atCorner along.1
      rw [List.foldl_cons]
      by_cases same : samePoint latest point = true
      · rw [extend_same same]
        exact inductionHypothesis (.inr same) along.2 isFinish aligned
      · cases earlier with
        | nil =>
            rw [extend_first same]
            exact inductionHypothesis (.inl rfl) along.2 isFinish
              (.cons_cons reached (.singleton latest))
        | cons before others =>
            by_cases straight : collinear before latest point = true
            · rw [extend_straight same straight]
              rw [List.isChain_cons_cons] at aligned
              exact inductionHypothesis (.inl rfl) along.2 isFinish
                (.cons_cons (isNearlyAligned_of_collinear straight) aligned.2)
            · rw [extend_turn same straight]
              exact inductionHypothesis (.inl rfl) along.2 isFinish (.cons_cons reached aligned)

/-- Coordinates of a walk that count as one are the same, and all of them are numbers. -/
structure IsSettled (corners : List (Point α)) : Prop where
  sameX :
    ∀ first ∈ corners, ∀ second ∈ corners, isClose first.x second.x = true →
      first.x = second.x
  sameY :
    ∀ first ∈ corners, ∀ second ∈ corners, isClose first.y second.y = true →
      first.y = second.y
  number :
    ∀ corner ∈ corners,
      Scalar.equal corner.x corner.x = true ∧ Scalar.equal corner.y corner.y = true

namespace IsSettled

variable {corners : List (Point α)}

/-- In a settled line, points that are hardly apart are equal. -/
theorem eq_of_samePoint
    (settled : IsSettled corners)
    {first second : Point α}
    (isFirst : first ∈ corners)
    (isSecond : second ∈ corners)
    (same : samePoint first second = true) :
    first = second := by
  rw [samePoint, Bool.and_eq_true] at same
  obtain ⟨x, y⟩ := first
  obtain ⟨otherX, otherY⟩ := second
  obtain rfl : x = otherX := settled.sameX _ isFirst _ isSecond same.1
  obtain rfl : y = otherY := settled.sameY _ isFirst _ isSecond same.2
  rfl

/-- In a settled line, points that are nearly on one line share a coordinate. -/
theorem sharesAxis_of_collinear
    (settled : IsSettled corners)
    {before latest point : Point α}
    (isBefore : before ∈ corners)
    (isLatest : latest ∈ corners)
    (isPoint : point ∈ corners)
    (straight : collinear before latest point = true) :
    before.SharesAxis point := by
  simp only [collinear, Bool.or_eq_true, Bool.and_eq_true] at straight
  rcases straight with ⟨first, second⟩ | ⟨first, second⟩
  · exact .inl ((settled.sameX _ isBefore _ isLatest first).trans
      (settled.sameX _ isLatest _ isPoint second))
  · exact .inr ((settled.sameY _ isBefore _ isLatest first).trans
      (settled.sameY _ isLatest _ isPoint second))

theorem isAligned_of_sharesAxis
    (settled : IsSettled corners)
    {first second : Point α}
    (isFirst : first ∈ corners)
    (shared : first.SharesAxis second) :
    first.IsAligned second := by
  obtain ⟨equalX, equalY⟩ := settled.number _ isFirst
  rcases shared with sameX | sameY
  · exact .inl (sameX ▸ equalX)
  · exact .inr (sameY ▸ equalY)

/-- A walk keeps its line attached where coordinates that count as one are the same. -/
theorem staysAttached
    (settled : IsSettled corners)
    {finish latest : Point α}
    {before : Option (Point α)}
    {rest : List (Point α)}
    (areCorners : ∀ point ∈ latest :: rest, point ∈ corners)
    (beforeCorner : ∀ point ∈ before, point ∈ corners ∧ point.SharesAxis latest)
    (along : (latest :: rest).IsChain Point.SharesAxis)
    (isFinish : (latest :: rest).getLast? = some finish)
    (moves : before = none → ∃ point ∈ rest, ¬ samePoint latest point = true) :
    StaysAttached finish before latest rest := by
  induction rest generalizing latest before with
  | nil =>
      cases isFinish
      cases before with
      | none =>
          obtain ⟨_, isNone, _⟩ := moves rfl
          cases isNone
      | some before =>
          obtain ⟨isCorner, shared⟩ := beforeCorner before rfl
          exact ⟨settled.isAligned_of_sharesAxis isCorner shared, rfl⟩
  | cons point rest inductionHypothesis =>
      rw [List.isChain_cons_cons] at along
      rw [List.getLast?_cons_cons] at isFinish
      have isLatest := areCorners latest List.mem_cons_self
      have isPoint := areCorners point (List.mem_cons_of_mem _ List.mem_cons_self)
      have laterCorners : ∀ later ∈ point :: rest, later ∈ corners :=
        fun later member => areCorners later (List.mem_cons_of_mem _ member)
      by_cases same : samePoint latest point = true
      · obtain rfl := settled.eq_of_samePoint isLatest isPoint same
        have stays :=
          inductionHypothesis laterCorners beforeCorner along.2 isFinish fun isNone => by
            obtain ⟨other, isOther, apart⟩ := moves isNone
            rcases List.mem_cons.mp isOther with rfl | later
            · exact absurd same apart
            · exact ⟨other, later, apart⟩
        cases before <;> simpa [StaysAttached, same] using stays
      · have stays :=
          @inductionHypothesis point (some latest) laterCorners
            (fun _ isLast => by
              cases isLast
              exact ⟨isLatest, along.1⟩)
            along.2 isFinish (fun isNone => by cases isNone)
        cases before with
        | none =>
            simpa [StaysAttached, same] using stays
        | some before =>
            obtain ⟨isCorner, shared⟩ := beforeCorner before rfl
            by_cases straight : collinear before latest point = true
            · have stays :=
                @inductionHypothesis point (some before) laterCorners
                  (fun _ isLast => by
                    cases isLast
                    exact ⟨isCorner,
                      settled.sharesAxis_of_collinear isCorner isLatest isPoint straight⟩)
                  along.2 isFinish (fun isNone => by cases isNone)
              simpa [StaysAttached, same, straight] using stays
            · have aligned := settled.isAligned_of_sharesAxis isCorner shared
              simpa [StaysAttached, same, straight, aligned] using stays

end IsSettled

/-- A drawn line is attached to its ends exactly if the walk keeps it so. -/
theorem isAttached_simplify_iff
    {start finish : Point α}
    {rest : List (Point α)} :
    IsAttached start finish (simplify (start :: rest)) ↔ StaysAttached finish none start rest := by
  have isFirst : (simplify (start :: rest)).head? = some start := by
    rw [simplify, List.head?_reverse]
    exact getLast?_foldl start [] rest
  have kept :
      2 ≤ (simplify (start :: rest)).length ∧
          (simplify (start :: rest)).getLast? = some finish ∧
            (simplify (start :: rest)).IsChain Point.IsAligned ↔
        StaysAttached finish none start rest := by
    rw [simplify, List.length_reverse, List.getLast?_reverse, List.isChain_reverse]
    exact isAttached_foldl_iff.trans (and_iff_right .nil)
  rw [← kept]
  constructor
  · intro attached
    exact ⟨attached.twoPoints, attached.last, attached.aligned⟩
  · rintro ⟨twoPoints, isLast, aligned⟩
    exact ⟨twoPoints, isFirst, isLast, aligned⟩

/-- A line is made of corners of a walk from its first one on, and stays close to the walk. -/
structure IsDrawn (start finish : Point α) (corners points : List (Point α)) : Prop where
  ofCorners : points.Sublist corners
  first : points.head? = some start
  last : ∃ point, points.getLast? = some point ∧ (point = finish ∨ samePoint point finish = true)
  aligned : points.IsChain IsNearlyAligned

namespace IsOrthogonal

variable {start finish : Point α} {corners : List (Point α)}

/-- What is drawn of a walk starts at its first end and stays close to it. -/
theorem isDrawn_simplify
    (orthogonal : IsOrthogonal start finish corners) :
    IsDrawn start finish corners (simplify corners) := by
  obtain ⟨next, rest, rfl⟩ := orthogonal.exists_rest
  obtain ⟨aligned, last, isLast, isNear⟩ :=
    isNearlyAligned_foldl (.inl rfl) orthogonal.along orthogonal.last (.singleton start)
  constructor
  case ofCorners =>
    exact sublist_foldl [] (start :: next :: rest)
  case first =>
    rw [simplify, List.head?_reverse]
    exact getLast?_foldl start [] (next :: rest)
  case last =>
    rw [simplify, List.getLast?_reverse]
    exact ⟨last, isLast, isNear⟩
  case aligned =>
    rw [simplify, List.isChain_reverse]
    exact aligned

/-- What is drawn of a walk leads along the axes if coordinates that count as one are the same. -/
theorem isAttached_simplify
    (orthogonal : IsOrthogonal start finish corners)
    (settled : IsSettled corners)
    (apart : ¬ samePoint start finish = true) :
    IsAttached start finish (simplify corners) := by
  obtain ⟨next, rest, rfl⟩ := orthogonal.exists_rest
  have isLast := orthogonal.last
  rw [List.getLast?_cons_cons] at isLast
  exact isAttached_simplify_iff.mpr
    (settled.staysAttached (fun _ member => member) (fun _ isNone => by cases isNone)
      orthogonal.along orthogonal.last fun _ =>
        ⟨finish, List.mem_of_getLast? isLast, apart⟩)

end IsOrthogonal

end Polyline

namespace LinkLayout

variable {links : List Link} {roads : PlacedRoads α} {gates : List (GatePoint α)} {route : Route}

/-- A gate is found exactly if it was placed. -/
theorem gate_eq_ok_iff
    {id : LinkId}
    {linkEnd : LinkEnd}
    {point : Point α} :
    gate gates id linkEnd = .ok point ↔ gates.lookup (id, linkEnd) = some point := by
  rw [gate]
  cases gates.lookup (id, linkEnd) <;> simp

variable [Scalar α]

/-- A lane is found exactly if its road was placed. -/
theorem lane_eq_ok_iff
    {id : LinkId}
    {passage : Passage}
    {line : Axis × α} :
    lane roads id passage = .ok line ↔
      ∃ road, roads.get? passage.road = some (some road) ∧
        line = (road.fixedAxis, road.laneLine passage.lane) := by
  rw [lane]
  cases isFound : roads.get? passage.road with
  | none =>
      simp
  | some value =>
      cases value with
      | none =>
          simp
      | some road =>
          simp [eq_comm]

/-- A drawn link is the simplified walk from gate to gate along the lanes of its route. -/
theorem of_ofRoute
    {layout : LinkLayout α}
    (succeeded : ofRoute links roads gates route = .ok layout) :
    ∃ start finish lanes, gates.lookup (route.link, .source) = some start ∧
      gates.lookup (route.link, .target) = some finish ∧
        route.passages.mapM (lane roads route.link) = .ok lanes ∧
          layout.points = Polyline.simplify (Polyline.corners start finish lanes) ∧
            layout.link = route.link ∧ layout.source = route.source ∧
              layout.target = route.target := by
  obtain ⟨link, _, succeeded⟩ := Attempt.bind_eq_ok_iff.mp succeeded
  obtain ⟨start, isStart, succeeded⟩ := Attempt.bind_eq_ok_iff.mp succeeded
  obtain ⟨finish, isFinish, succeeded⟩ := Attempt.bind_eq_ok_iff.mp succeeded
  obtain ⟨lanes, areLanes, same⟩ := Attempt.bind_eq_ok_iff.mp succeeded
  cases same
  exact ⟨start, finish, lanes, gate_eq_ok_iff.mp isStart, gate_eq_ok_iff.mp isFinish, areLanes,
    rfl, rfl, rfl, rfl⟩

/-- A link is drawn if it exists and its gates and roads have their places. -/
theorem exists_ofRoute
    (known : route.link < links.length)
    (hasGates : ∀ linkEnd, (gates.lookup (route.link, linkEnd)).isSome)
    (hasRoads : ∀ road ∈ route.roads, ∃ layout, roads.get? road = some (some layout)) :
    ∃ layout, ofRoute links roads gates route = .ok layout := by
  obtain ⟨start, isStart⟩ := Option.isSome_iff_exists.mp (hasGates .source)
  obtain ⟨finish, isFinish⟩ := Option.isSome_iff_exists.mp (hasGates .target)
  have has_lane :
      ∀ passage ∈ route.passages, ∃ line, lane roads route.link passage = .ok line := by
    intro passage member
    obtain ⟨layout, isFound⟩ := hasRoads passage.road (List.mem_map_of_mem member)
    exact ⟨_, lane_eq_ok_iff.mpr ⟨layout, isFound, rfl⟩⟩
  obtain ⟨lanes, areLanes⟩ := Attempt.exists_mapM_eq_ok has_lane
  have isLink : linkOf links route.link = .ok links[route.link] := by
    rw [linkOf, List.getElem?_eq_getElem known]
  exact ⟨_, by
    rw [ofRoute, isLink, Attempt.ok_bind, gate_eq_ok_iff.mpr isStart, Attempt.ok_bind,
      gate_eq_ok_iff.mpr isFinish, Attempt.ok_bind, areLanes, Attempt.ok_bind]
    rfl⟩

end LinkLayout

end BoxDiagram
