import BoxDiagram.Number.Exact
import BoxDiagram.Proofs.Layout.Polyline
import Mathlib.Data.List.Induction
import Mathlib.Data.List.Infix
import Mathlib.Logic.Function.Iterate

namespace BoxDiagram

/-!
# Lines without needless points

The points of a line are kept or dropped one after the other, and a test that was passed
is not made again.  When a straight run gives up its latest point, the new one becomes a
neighbour of the point where the run began; if the run has come back to there, the two
repeat each other or lie on one line with the point before.  So lines that never come back
lose all needless points at once.  All others lose them if the same is done again and again.
-/

variable {α : Type} [Scalar α]

namespace Polyline

/-- No point repeats the one before it, and none lies in the middle of a straight run. -/
structure IsNormal (points : List (Point α)) : Prop where
  apart : ∀ first second, [first, second] <:+: points → samePoint first second = false
  turns :
    ∀ first second third, [first, second, third] <:+: points →
      collinear first second third = false

/-- A straight run through two points goes on to a point that counts as its first one. -/
def comesBack (before latest point : Point α) : Bool :=
  !samePoint latest point &&
    (isClose before.x latest.x && isClose latest.x point.x && isClose before.y point.y ||
      isClose before.y latest.y && isClose latest.y point.y && isClose before.x point.x)

/-- No point of a walk comes back along the last two points that are kept before it. -/
def NeverComesBack (points : List (Point α)) : Prop :=
  ∀ initial point rest, points = initial ++ point :: rest →
    ∀ earlier before latest, simplify initial = earlier ++ [before, latest] →
      comesBack before latest point = false

/-- The first point does not repeat the latest one that is kept, and goes on in a turn. -/
def IsTurn (kept : List (Point α)) (point : Point α) : Prop :=
  match kept with
  | [] => True
  | [latest] => samePoint latest point = false
  | latest :: before :: _ =>
      samePoint latest point = false ∧ collinear before latest point = false

/-- Read from its end, a line is normal by the same tests. -/
theorem isNormal_reverse_iff
    {kept : List (Point α)} :
    IsNormal kept.reverse ↔
      (∀ first second, [second, first] <:+: kept → samePoint first second = false) ∧
        ∀ first second third, [third, second, first] <:+: kept →
          collinear first second third = false := by
  constructor
  · rintro ⟨apart, turns⟩
    exact ⟨fun first second inKept => apart first second (List.reverse_infix.mpr inKept),
      fun first second third inKept => turns first second third (List.reverse_infix.mpr inKept)⟩
  · rintro ⟨apart, turns⟩
    constructor
    · intro first second inLine
      exact apart first second (List.reverse_infix.mp (by simpa using inLine))
    · intro first second third inLine
      exact turns first second third (List.reverse_infix.mp (by simpa using inLine))

/-- A line with one more point is normal if it is so without it and goes on in a turn. -/
theorem isNormal_reverse_cons
    {kept : List (Point α)}
    {point : Point α} :
    IsNormal (point :: kept).reverse ↔ IsNormal kept.reverse ∧ IsTurn kept point := by
  rw [isNormal_reverse_iff, isNormal_reverse_iff]
  constructor
  · rintro ⟨apart, turns⟩
    have onKept : kept <:+: point :: kept := List.infix_cons List.infix_rfl
    refine ⟨⟨fun _ _ inKept => apart _ _ (inKept.trans onKept),
      fun _ _ _ inKept => turns _ _ _ (inKept.trans onKept)⟩, ?_⟩
    match kept with
    | [] => trivial
    | [latest] => exact apart latest point List.infix_rfl
    | latest :: before :: earlier =>
        exact ⟨apart latest point ⟨[], before :: earlier, rfl⟩,
          turns before latest point ⟨[], earlier, rfl⟩⟩
  · rintro ⟨⟨apart, turns⟩, isTurn⟩
    constructor
    · intro first second inLine
      rcases List.infix_cons_iff.mp inLine with isFront | inKept
      · match kept, isTurn, isFront with
        | [latest], isApart, isFront =>
            simp_all [IsTurn]
        | latest :: before :: earlier, isTurn, isFront =>
            simp_all [IsTurn]
      · exact apart first second inKept
    · intro first second third inLine
      rcases List.infix_cons_iff.mp inLine with isFront | inKept
      · match kept, isTurn, isFront with
        | latest :: before :: earlier, isTurn, isFront =>
            simp_all [IsTurn]
      · exact turns first second third inKept

/-- A line is simplified point by point. -/
theorem simplify_concat
    (points : List (Point α))
    (point : Point α) :
    simplify (points ++ [point]) = (extend (simplify points).reverse point).reverse := by
  simp [simplify]

/-- A turn is kept. -/
theorem extend_eq_of_isTurn
    {kept : List (Point α)}
    {point : Point α}
    (isTurn : IsTurn kept point) :
    extend kept point = point :: kept := by
  match kept, isTurn with
  | [], _ => rfl
  | [latest], apart => exact extend_first (by simp_all [IsTurn])
  | latest :: before :: _, ⟨apart, turned⟩ => exact extend_turn (by simp [apart]) (by simp [turned])

/-- What is not a turn makes a line no longer. -/
theorem length_extend_le_of_not_isTurn
    {kept : List (Point α)}
    {point : Point α}
    (noTurn : ¬ IsTurn kept point) :
    (extend kept point).length ≤ kept.length := by
  match kept with
  | [] => exact absurd trivial noTurn
  | [latest] =>
      have same : samePoint latest point = true := by simpa [IsTurn] using noTurn
      rw [extend_same same]
  | latest :: before :: earlier =>
      by_cases same : samePoint latest point = true
      · rw [extend_same same]
      · have straight : collinear before latest point = true := by
          simpa [IsTurn, same] using noTurn
        rw [extend_straight same straight]
        simp

/-- A point makes a line at most one point longer. -/
theorem length_extend_le
    (kept : List (Point α))
    (point : Point α) :
    (extend kept point).length ≤ kept.length + 1 := by
  by_cases isTurn : IsTurn kept point
  · rw [extend_eq_of_isTurn isTurn, List.length_cons]
  · exact Nat.le_succ_of_le (length_extend_le_of_not_isTurn isTurn)

/-- A straight run that does not come back goes on in a turn from the point where it began. -/
theorem isTurn_of_collinear
    {before latest point : Point α}
    {earlier : List (Point α)}
    (wasTurn : IsTurn (before :: earlier) latest)
    (apart : samePoint latest point = false)
    (straight : collinear before latest point = true)
    (goesOn : comesBack before latest point = false) :
    IsTurn (before :: earlier) point := by
  simp only [comesBack, apart, Bool.not_false, Bool.true_and, Bool.or_eq_false_iff,
    Bool.and_eq_false_iff] at goesOn
  simp only [collinear, Bool.or_eq_true, Bool.and_eq_true] at straight
  have notBack : samePoint before point = false := by
    rw [samePoint, Bool.and_eq_false_iff]
    rcases straight with ⟨sameX, alsoX⟩ | ⟨sameY, alsoY⟩
    · simp_all
    · simp_all
  cases earlier with
  | nil =>
      exact notBack
  | cons first further =>
      obtain ⟨_, turned⟩ := wasTurn
      refine ⟨notBack, ?_⟩
      simp only [collinear, Bool.or_eq_false_iff, Bool.and_eq_false_iff] at turned ⊢
      -- The run before went along the other axis, and there the new point is away.
      rcases straight with ⟨sameX, alsoX⟩ | ⟨sameY, alsoY⟩
      · simp_all
      · simp_all

/-- One more point keeps a line normal, unless it comes back along its last two points. -/
theorem isNormal_extend
    {kept : List (Point α)}
    {point : Point α}
    (normal : IsNormal kept.reverse)
    (goesOn :
      ∀ latest before earlier, kept = latest :: before :: earlier →
        comesBack before latest point = false) :
    IsNormal (extend kept point).reverse := by
  by_cases isTurn : IsTurn kept point
  · rw [extend_eq_of_isTurn isTurn]
    exact isNormal_reverse_cons.mpr ⟨normal, isTurn⟩
  match kept with
  | [] => exact absurd trivial isTurn
  | [latest] =>
      have same : samePoint latest point = true := by simpa [IsTurn] using isTurn
      rwa [extend_same same]
  | latest :: before :: earlier =>
      by_cases same : samePoint latest point = true
      · rwa [extend_same same]
      · have straight : collinear before latest point = true := by
          simpa [IsTurn, same] using isTurn
        obtain ⟨normalBefore, wasTurn⟩ := isNormal_reverse_cons.mp normal
        rw [extend_straight same straight]
        exact isNormal_reverse_cons.mpr ⟨normalBefore,
          isTurn_of_collinear wasTurn (Bool.eq_false_iff.mpr same) straight
            (goesOn latest before earlier rfl)⟩

/-- A line that never comes back is normal after all its points. -/
theorem isNormal_simplify_of_neverComesBack
    {points : List (Point α)}
    (goesOn : NeverComesBack points) :
    IsNormal (simplify points) := by
  induction points using List.reverseRecOn with
  | nil =>
      exact ⟨by simp [simplify], by simp [simplify]⟩
  | append_singleton initial point inductionHypothesis =>
      have goesOnBefore : NeverComesBack initial := by
        rintro first next rest rfl
        exact goesOn first next (rest ++ [point]) (by simp)
      rw [simplify_concat]
      refine isNormal_extend (by simpa using inductionHypothesis goesOnBefore) ?_
      intro latest before earlier isKept
      refine goesOn initial point [] rfl earlier.reverse before latest ?_
      rw [← List.reverse_reverse (simplify initial), isKept]
      simp

/-- No point is added to a line, and one is dropped if it has a needless one. -/
theorem simplify_eq_or_length_lt
    (points : List (Point α)) :
    simplify points = points ∧ IsNormal points ∨
      (simplify points).length < points.length ∧ ¬ IsNormal points := by
  induction points using List.reverseRecOn with
  | nil =>
      exact .inl ⟨rfl, by simp, by simp⟩
  | append_singleton initial point inductionHypothesis =>
      have normal_iff :
          IsNormal (initial ++ [point]) ↔ IsNormal initial ∧ IsTurn initial.reverse point := by
        have reversed :
            IsNormal (point :: initial.reverse).reverse ↔
              IsNormal initial.reverse.reverse ∧ IsTurn initial.reverse point :=
          isNormal_reverse_cons
        simpa using reversed
      rw [simplify_concat, normal_iff, List.length_reverse, List.length_append]
      rcases inductionHypothesis with ⟨same, normal⟩ | ⟨shorter, notNormal⟩
      · rw [same]
        by_cases isTurn : IsTurn initial.reverse point
        · exact .inl ⟨by simp [extend_eq_of_isTurn isTurn], normal, isTurn⟩
        · have := length_extend_le_of_not_isTurn isTurn
          simp only [List.length_reverse] at this
          exact .inr ⟨Nat.lt_succ_of_le this, fun both => isTurn both.2⟩
      · have grows := length_extend_le (simplify initial).reverse point
        rw [List.length_reverse] at grows
        exact .inr ⟨Nat.lt_of_le_of_lt grows (Nat.succ_lt_succ shorter),
          fun both => notNormal both.1⟩

/-- Simplifying keeps exactly the lines in normal form. -/
theorem simplify_eq_iff_isNormal
    {points : List (Point α)} :
    simplify points = points ↔ IsNormal points := by
  rcases simplify_eq_or_length_lt points with ⟨same, normal⟩ | ⟨shorter, notNormal⟩
  · exact iff_of_true same normal
  · exact iff_of_false (fun same => absurd (congrArg List.length same) shorter.ne) notNormal

/-- What is done again for each point of a line leaves no needless one. -/
theorem isNormal_iterate_simplify
    {points : List (Point α)}
    {count : Nat}
    (enough : points.length ≤ count) :
    IsNormal (simplify^[count] points) := by
  induction count generalizing points with
  | zero =>
      obtain rfl := List.eq_nil_of_length_eq_zero (Nat.le_zero.mp enough)
      exact ⟨by simp, by simp⟩
  | succ count inductionHypothesis =>
      rcases simplify_eq_or_length_lt points with ⟨same, normal⟩ | ⟨shorter, _⟩
      · rwa [Function.iterate_fixed same]
      · exact inductionHypothesis (by omega)

/-- A walk no three points of which come back never does so among those that are kept. -/
theorem neverComesBack_of_sublist
    {points : List (Point α)}
    (goesOn :
      ∀ first second third, [first, second, third].Sublist points →
        comesBack first second third = false) :
    NeverComesBack points := by
  rintro initial point rest rfl earlier before latest isKept
  have kept : (simplify initial).Sublist initial := sublist_foldl [] initial
  have pair : [before, latest].Sublist initial :=
    (List.sublist_append_right earlier _).trans (isKept ▸ kept)
  exact goesOn before latest point
    (pair.append (List.singleton_sublist.mpr List.mem_cons_self))

/--
The points of a line that are kept are the whole line exactly if no point repeats the one
before it and none lies in the middle of a straight run; otherwise they are fewer, so that
all needless points are gone when the line has been simplified once for each of its points.
They are gone at once if no straight run comes back to where it began, and then nothing
changes any more.
-/
theorem isNormal_simplify
    (points : List (Point α)) :
    (simplify points = points ↔ IsNormal points) ∧
      (¬ IsNormal points → (simplify points).length < points.length) ∧
        IsNormal (simplify^[points.length] points) ∧
          (NeverComesBack points →
            IsNormal (simplify points) ∧ simplify (simplify points) = simplify points) := by
  refine ⟨simplify_eq_iff_isNormal, ?shorter, isNormal_iterate_simplify (Nat.le_refl _), ?atOnce⟩
  case shorter =>
    intro notNormal
    rcases simplify_eq_or_length_lt points with ⟨_, normal⟩ | ⟨shorter, _⟩
    · exact absurd normal notNormal
    · exact shorter
  case atOnce =>
    intro goesOn
    have normal := isNormal_simplify_of_neverComesBack goesOn
    exact ⟨normal, simplify_eq_iff_isNormal.mpr normal⟩

/--
A walk down, on and to the right loses its repeated point and the middle of its straight run at
once.  One that goes to the right and back again on its way down keeps the point in the middle
of the way down, until it is simplified again.
-/
theorem exists_isNormal_simplify :
    ∃ walk back : List (Point Rat),
      walk = [⟨0, 0⟩, ⟨0, 5⟩, ⟨0, 5⟩, ⟨0, 10⟩, ⟨7, 10⟩] ∧
        simplify walk = [⟨0, 0⟩, ⟨0, 10⟩, ⟨7, 10⟩] ∧ NeverComesBack walk ∧
          IsNormal (simplify walk) ∧
            back = [⟨0, 0⟩, ⟨0, 5⟩, ⟨7, 5⟩, ⟨0, 5⟩, ⟨0, 10⟩] ∧
              simplify back = [⟨0, 0⟩, ⟨0, 5⟩, ⟨0, 10⟩] ∧ ¬ IsNormal (simplify back) ∧
                simplify^[5] back = [⟨0, 0⟩, ⟨0, 10⟩] ∧ IsNormal (simplify^[5] back) := by
  let walk : List (Point Rat) := [⟨0, 0⟩, ⟨0, 5⟩, ⟨0, 5⟩, ⟨0, 10⟩, ⟨7, 10⟩]
  let back : List (Point Rat) := [⟨0, 0⟩, ⟨0, 5⟩, ⟨7, 5⟩, ⟨0, 5⟩, ⟨0, 10⟩]
  have noneBack :
      ∀ first ∈ walk, ∀ second ∈ walk, ∀ third ∈ walk, [first, second, third].Sublist walk →
        comesBack first second third = false := by
    decide +kernel
  have goesOn : NeverComesBack walk := by
    apply neverComesBack_of_sublist
    intro first second third inWalk
    exact noneBack first (inWalk.subset (by simp)) second (inWalk.subset (by simp)) third
      (inWalk.subset (by simp)) inWalk
  have isLeft : simplify back = [⟨0, 0⟩, ⟨0, 5⟩, ⟨0, 10⟩] := by
    decide +kernel
  have straight : collinear (⟨0, 0⟩ : Point Rat) ⟨0, 5⟩ ⟨0, 10⟩ = true := by
    decide +kernel
  refine ⟨walk, back, rfl, by decide +kernel, goesOn, ((isNormal_simplify walk).2.2.2 goesOn).1,
    rfl, isLeft, ?_, by decide +kernel, (isNormal_simplify back).2.2.1⟩
  intro normal
  have turned := normal.turns ⟨0, 0⟩ ⟨0, 5⟩ ⟨0, 10⟩ (by rw [isLeft])
  rw [straight] at turned
  cases turned

end Polyline

end BoxDiagram
